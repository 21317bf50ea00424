import ImportAtlas.Proofs.Log.Session
import Mathlib.Data.List.Basic

/-! # Runs of a log

A log is set up any number of times, and records are emitted in between. Main statement: after each
time it is set up, it has the handlers that were asked for and no others, and every record that
counts becomes one line at the end of the log file, in which all earlier lines stay.
-/

namespace ImportAtlas.Log.Session

variable {session other last : Session} {day : Time.Date} {settings : Settings}

/-! ## Open files -/

def othersOpen (session : Session) : List Location :=
  session.opened.diff (session.handlers.filterMap Handler.file?)

private theorem filterMap_file?_handlers (settings : Settings) (place : Location) :
    (settings.handlers place).filterMap Handler.file? = [place] := by
  unfold Settings.handlers
  split <;> rfl

theorem opened_setUp_eq {created : Time.Timestamp} {file : Location}
    (succeeded : (session.setUp created day settings).2 = .ok file) :
    (session.setUp created day settings).1.opened =
      session.othersOpen ++ [session.logPlace day settings] := by
  rw [opened_setUp succeeded, othersOpen, List.diff_eq_foldl]

/-! ## Steps -/

structure Keeps (session other : Session) : Prop where
  room : other.room = session.room
  grows : session.system.Grows other.system
  othersOpen : other.othersOpen.Perm session.othersOpen

namespace Keeps

theorem refl (session : Session) : session.Keeps session :=
  ⟨rfl, .refl _, .refl _⟩

theorem trans (keeps : session.Keeps other) (further : other.Keeps last) : session.Keeps last where
  room := further.room.trans keeps.room
  grows := keeps.grows.trans further.grows
  othersOpen := further.othersOpen.trans keeps.othersOpen

end Keeps

theorem Continues.keeps (continues : session.Continues other) : session.Keeps other where
  room := continues.room
  grows := continues.grows
  othersOpen := by rw [Session.othersOpen, continues.opened, continues.handlers, Session.othersOpen]

private theorem keeps_setUp {created : Time.Timestamp} {file : Location}
    (succeeded : (session.setUp created day settings).2 = .ok file) :
    session.Keeps (session.setUp created day settings).1 where
  room := room_setUp succeeded
  grows := grows_setUp succeeded
  othersOpen := by
    rw [Session.othersOpen, opened_setUp_eq succeeded, (isSetUp_setUp succeeded).handlers,
      filterMap_file?_handlers, List.diff_cons, List.diff_nil]
    have ownLast := (List.perm_append_singleton (session.logPlace day settings)
      session.othersOpen).erase (session.logPlace day settings)
    rwa [List.erase_cons_head] at ownLast

/-! ## Runs -/

/-- What is done with a log. -/
inductive Action
  | setUp (created : Time.Timestamp) (settings : Settings)
  | emit (record : Record)

def apply (day : Time.Date) (session : Session) : Action → Session
  | .setUp created settings => (session.setUp created day settings).1
  | .emit record => session.emit record

def run (day : Time.Date) (session : Session) (actions : List Action) : Session :=
  actions.foldl (apply day) session

def Succeeds (day : Time.Date) (session : Session) : Action → Prop
  | .setUp created settings =>
      (session.setupRecord created day settings).HasLine session.room ∧
        ∃ file, (session.setUp created day settings).2 = .ok file
  | .emit record => record.HasLine session.room

/-- Whether all actions of a run succeed. -/
def Proceeds (day : Time.Date) (session : Session) : List Action → Prop
  | [] => True
  | action :: rest => session.Succeeds day action ∧ (session.apply day action).Proceeds day rest

theorem keeps_apply {action : Action} (succeeds : session.Succeeds day action) :
    session.Keeps (session.apply day action) := by
  cases action with
  | setUp created settings =>
      rcases succeeds with ⟨_, file, succeeded⟩
      exact keeps_setUp succeeded
  | emit record => exact (session.continues_emit record).keeps

theorem keeps_run {actions : List Action} (proceeds : session.Proceeds day actions) :
    session.Keeps (session.run day actions) := by
  induction actions generalizing session with
  | nil => exact .refl session
  | cons action rest induction =>
      exact (keeps_apply proceeds.1).trans (induction proceeds.2)

theorem proceeds_append {before after : List Action} : session.Proceeds day (before ++ after) ↔
    session.Proceeds day before ∧ (session.run day before).Proceeds day after := by
  induction before generalizing session with
  | nil => exact (true_and _).to_iff.symm
  | cons action rest induction =>
      rw [List.cons_append, Proceeds, Proceeds, induction, and_assoc]
      rfl

theorem proceeds_map_emit_iff {records : List Record} :
    session.Proceeds day (records.map .emit) ↔
      ∀ record ∈ records, record.HasLine session.room := by
  induction records generalizing session with
  | nil => simp [Proceeds]
  | cons record rest induction =>
      have sameRoom : (session.apply day (.emit record)).room = session.room :=
        (session.continues_emit record).room
      rw [List.map_cons, Proceeds, induction, sameRoom, List.forall_mem_cons]
      rfl

private theorem run_append (session : Session) (day : Time.Date) (before after : List Action) :
    session.run day (before ++ after) = (session.run day before).run day after :=
  List.foldl_append

private theorem run_emit (session : Session) (day : Time.Date) (records : List Record) :
    session.run day (records.map .emit) = records.foldl Session.emit session :=
  List.foldl_map

/-! ## After setting up -/

/-- What holds of a log after a run from `first` on, which has been set up in the state `earlier`
and has been given records since. -/
structure Delivers (first earlier : Session) (created : Time.Timestamp) (day : Time.Date)
    (settings : Settings) (records : List Record) (last : Session) : Prop where
  /-- The handlers are those that were asked for: one on the log file, and the console if it is
  shown. -/
  handlers : last.handlers = settings.handlers (earlier.logPlace day settings)
  /-- The log file is the file of the day in the directory, if that is given without steps up. -/
  isPlace : (earlier.directoryOf settings).anchor ∈ ["", "/", "//"] →
    (∀ part ∈ (earlier.system.absolute (earlier.directoryOf settings)).parts, IsName part) →
      earlier.logPlace day settings =
        earlier.system.absolute (fileIn (earlier.directoryOf settings) day)
  /-- All files that handlers have had before are closed. -/
  opened : last.opened.Perm (first.othersOpen ++ [earlier.logPlace day settings])
  /-- All that has been in a file stays there. -/
  kept : ∀ trail content, first.system.content? trail = some content →
    ∃ added, last.system.content? trail = some (content ++ added)
  /-- What is written for a record is one line. -/
  lines : ∀ record ∈ earlier.setupRecord created day settings :: records, ∃ line,
    record.line first.room = .ok line ∧ '\n' ∉ line.toList ∧
      record.bytes first.room = Text.Utf8.encode (line.toList ++ ['\n'])
  /-- The records that count follow in the log file, the first one about setting up, and no other
  file changes. -/
  logged : (earlier.setUp created day settings).1.system.isFile?
      (earlier.logPlace day settings) = .ok true →
    ∃ trail, last.system.lookup true (earlier.logPlace day settings) = .ok (.entry trail) ∧
      earlier.system.Appends trail
        ((earlier.setupRecord created day settings :: records).flatMap
          (settings.written first.room)) last.system

/-- However often a log has been set up before and whatever has been recorded, it delivers the
records that follow. -/
theorem delivers_run {before : List Action} {created : Time.Timestamp} {records : List Record}
    (proceeds : session.Proceeds day (before ++ .setUp created settings :: records.map .emit)) :
    Delivers session (session.run day before) created day settings records
      (session.run day (before ++ .setUp created settings :: records.map .emit)) := by
  have keeps := keeps_run proceeds
  rcases proceeds_append.mp proceeds with ⟨startProceeds, ⟨hasLine, file, succeeded⟩, rest⟩
  have haveLines := proceeds_map_emit_iff.mp rest
  have keepsEarlier := keeps_run startProceeds
  have isRoom : ((session.run day before).setUp created day settings).1.room = session.room :=
    (room_setUp succeeded).trans keepsEarlier.room
  rw [keepsEarlier.room] at hasLine
  change ∀ record ∈ records,
    record.HasLine ((session.run day before).setUp created day settings).1.room at haveLines
  have isLast : session.run day (before ++ .setUp created settings :: records.map .emit) =
      records.foldl Session.emit ((session.run day before).setUp created day settings).1 :=
    (run_append ..).trans (run_emit _ day records)
  rw [isLast] at keeps ⊢
  generalize session.run day before = earlier at *
  have continues := continues_foldl_emit (earlier.setUp created day settings).1 records
  refine ⟨continues.handlers.trans (isSetUp_setUp succeeded).handlers,
    fun isAnchor named => logPlace_eq isAnchor named day, ?_,
    fun trail content holds => keeps.grows.content? holds,
    List.forall_mem_cons.mpr ⟨hasLine.exists_line, fun record member =>
      (isRoom ▸ haveLines record member).exists_line⟩, ?_⟩
  · rw [continues.opened, opened_setUp_eq succeeded]
    exact keepsEarlier.othersOpen.append_right _
  · intro isFile
    rcases writesTo_setUp succeeded (keepsEarlier.room ▸ hasLine) isFile with
      ⟨trail, writes, appends⟩
    rcases writes.appends_foldl_emit haveLines with ⟨stillWrites, more⟩
    rw [keepsEarlier.room] at appends
    rw [isRoom] at more
    exact ⟨trail, stillWrites.found, appends.trans more⟩

def emptyStart : Session :=
  fresh ⟨0, 1, 0⟩ {
    top := .directory .newDirectory [("r", .directory .newDirectory [])]
    workingDirectory := ["r"]
    isPrivileged := false }

private theorem room_emptyStart : emptyStart.room = ⟨0, 1, 0⟩ :=
  rfl

def spokenRecord (level : Level) : Record where
  logger := "a"
  level := level
  template := "one line\nor two"
  arguments := []
  created := .whole 0
  exception := none
  fields := []

private theorem hasLine_spokenRecord (level : Level) : (spokenRecord level).HasLine ⟨0, 1, 0⟩ :=
  ⟨⟨_, rfl⟩, ⟨_, rfl⟩, rfl⟩

private theorem exists_ok {ε α : Type} {outcome : Except ε α} (isOk : outcome.isOk = true) :
    ∃ value, outcome = .ok value := by
  cases outcome with
  | error fault => cases isOk
  | ok value => exact ⟨value, rfl⟩

private theorem succeeds_setUp {created : Time.Timestamp} (timed : created.moment.isOk = true)
    (isRoom : 0 < session.room.line)
    (succeeded : (session.setUp created day settings).2.isOk = true) :
    session.Succeeds day (.setUp created settings) := by
  rcases exists_ok timed with ⟨moment, isMoment⟩
  exact ⟨hasLine_setupRecord isMoment isRoom session day settings, exists_ok succeeded⟩

def localSettings (threshold : Level) : Settings :=
  ⟨some ⟨"", ["l"]⟩, threshold, false⟩

def spokenStart : Session :=
  emptyStart.run ⟨1970, 1, 1⟩ [.setUp (.whole 0) (localSettings 10), .emit (spokenRecord 20)]

private theorem proceeds_spoken (levels : List Level) (isRoom : session.room = ⟨0, 1, 0⟩) :
    session.Proceeds day ((levels.map spokenRecord).map .emit) := by
  rw [proceeds_map_emit_iff, isRoom, List.forall_mem_map]
  exact fun level _ => hasLine_spokenRecord level

private theorem proceeds_twice : emptyStart.Proceeds ⟨1970, 1, 1⟩
    ([.setUp (.whole 0) (localSettings 10), .emit (spokenRecord 20)] ++
      .setUp (.whole 60) (localSettings 30) :: [spokenRecord 30, spokenRecord 20].map .emit) := by
  have first : emptyStart.Succeeds ⟨1970, 1, 1⟩ (.setUp (.whole 0) (localSettings 10)) :=
    succeeds_setUp (by decide +kernel) (by decide) (by decide +kernel)
  have started : emptyStart.Proceeds ⟨1970, 1, 1⟩
      [.setUp (.whole 0) (localSettings 10), .emit (spokenRecord 20)] :=
    ⟨first, proceeds_spoken [20] (keeps_apply first).room⟩
  have isRoom : spokenStart.room = ⟨0, 1, 0⟩ := (keeps_run started).room
  have again : spokenStart.Succeeds ⟨1970, 1, 1⟩ (.setUp (.whole 60) (localSettings 30)) :=
    succeeds_setUp (by decide +kernel) (by rw [isRoom]; decide) (by decide +kernel)
  exact proceeds_append.mpr
    ⟨started, again, proceeds_spoken [30, 20] ((keeps_apply again).room.trans isRoom)⟩

private theorem logPlace_spokenStart : spokenStart.logPlace ⟨1970, 1, 1⟩ (localSettings 30) =
    ⟨"/", ["r", "l", "projgraph_19700101.log"]⟩ := by decide +kernel

private theorem isFile_spokenStart :
    (spokenStart.setUp (.whole 60) ⟨1970, 1, 1⟩ (localSettings 30)).1.system.isFile?
      (spokenStart.logPlace ⟨1970, 1, 1⟩ (localSettings 30)) = .ok true := by decide +kernel

theorem delivers_run_twice :
    let actions := [Action.setUp (.whole 0) (localSettings 10), .emit (spokenRecord 20)] ++
      .setUp (.whole 60) (localSettings 30) :: [spokenRecord 30, spokenRecord 20].map .emit
    let last := emptyStart.run ⟨1970, 1, 1⟩ actions
    emptyStart.Proceeds ⟨1970, 1, 1⟩ actions ∧
      last.handlers = [⟨.file ⟨"/", ["r", "l", "projgraph_19700101.log"]⟩, 30⟩] ∧
      ∃ trail, last.system.content? trail =
        some ((spokenStart.system.content? trail).getD [] ++
          (spokenRecord 30).bytes ⟨0, 1, 0⟩) := by
  intro actions last
  have delivers : Delivers emptyStart spokenStart (.whole 60) ⟨1970, 1, 1⟩ (localSettings 30)
      [spokenRecord 30, spokenRecord 20] last := delivers_run proceeds_twice
  rcases delivers.logged isFile_spokenStart with ⟨trail, _, appends⟩
  refine ⟨proceeds_twice, ?_, trail, ?_⟩
  · rw [delivers.handlers, logPlace_spokenStart]
    rfl
  · rw [appends.content, List.flatMap_cons, List.flatMap_cons, List.flatMap_cons, List.flatMap_nil,
      Settings.written_of_ignored (show ¬((0 : Int) < 20 ∧ (30 : Int) ≤ 20) by decide),
      Settings.written_of_counts (show (0 : Int) < 30 ∧ (30 : Int) ≤ 30 by decide),
      Settings.written_of_ignored (show ¬((0 : Int) < 20 ∧ (30 : Int) ≤ 20) by decide),
      List.nil_append, List.append_nil, List.append_nil, room_emptyStart]

def overlongRecord : Record :=
  { spokenRecord 20 with fields := [("n", .int WriteFault.integerBound)] }

private theorem nodup_overlongRecord : (overlongRecord.fields.map Prod.fst).Nodup :=
  List.nodup_singleton _

private theorem not_hasLine_overlongRecord (room : Room) : ¬overlongRecord.HasLine room := by
  rintro ⟨_, _, unhindered⟩
  rcases Field.firstFault_object_eq_none_iff.mp unhindered with ⟨below, _, each⟩
  have written := each _ (List.mem_singleton_self _)
  cases WriteFault.ofInt_integerBound.symm.trans written

theorem emit_adds_noLine :
    let session := (emptyStart.setUp (.whole 0) ⟨1970, 1, 1⟩ (localSettings 0)).1
    emptyStart.Succeeds ⟨1970, 1, 1⟩ (.setUp (.whole 0) (localSettings 0)) ∧
      (spokenRecord 0).HasLine session.room ∧
      (localSettings 0).threshold ≤ (spokenRecord 0).level ∧
      session.emit (spokenRecord 0) = session ∧
      overlongRecord.message session.room = .ok "one line\nor two" ∧
      (session.emit overlongRecord).system = session.system := by
  intro session
  have succeeds : emptyStart.Succeeds ⟨1970, 1, 1⟩ (.setUp (.whole 0) (localSettings 0)) :=
    succeeds_setUp (by decide +kernel) (by decide +kernel) (by decide +kernel)
  rcases succeeds with ⟨hasLine, file, succeeded⟩
  have isSetUp := isSetUp_setUp succeeded
  have isRoom := room_setUp succeeded
  refine ⟨⟨hasLine, file, succeeded⟩, ?_⟩
  change session.room = ⟨0, 1, 0⟩ at isRoom
  change session.IsSetUp (localSettings 0) _ at isSetUp
  clear_value session
  have noLine : ¬∃ line, overlongRecord.line session.room = .ok line := by
    rw [Record.exists_line_iff nodup_overlongRecord]
    exact not_hasLine_overlongRecord session.room
  refine ⟨?_, by decide, isSetUp.emit_eq_self (by decide), ?_, isSetUp.system_emit_of_noLine noLine⟩
  · rw [isRoom]
    exact hasLine_spokenRecord 0
  · rw [isRoom]
    rfl

end ImportAtlas.Log.Session
