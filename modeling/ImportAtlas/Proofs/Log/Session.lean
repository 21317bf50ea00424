import ImportAtlas.Log.Session
import ImportAtlas.Proofs.FileSystem.Appending
import ImportAtlas.Proofs.Log.Record
import ImportAtlas.Proofs.Path.Location

/-! # What sessions do

Main statements: a log that has been set up has the handlers that were asked for and writes to its
file, and each record that counts becomes one line at the end of this file and of no other.
-/

namespace ImportAtlas.Log

/-! ## Records in a file -/

/-- What a file gets for a record: its line, and a line end. -/
def Record.bytes (room : Room) (record : Record) : List UInt8 :=
  (record.line room).toOption.elim [] fun line => Text.Utf8.encode (line.toList ++ ['\n'])

theorem Record.HasLine.exists_line {room : Room} {record : Record} (hasLine : record.HasLine room) :
    ∃ line, record.line room = .ok line ∧ '\n' ∉ line.toList ∧
      record.bytes room = Text.Utf8.encode (line.toList ++ ['\n']) := by
  rcases hasLine with ⟨⟨moment, timed⟩, ⟨message, formatted⟩, unhindered⟩
  have isLine := Record.line_eq timed formatted unhindered
  refine ⟨_, isLine, ?_, by rw [Record.bytes, isLine]; rfl⟩
  rw [Json.render, String.toList_ofList]
  intro endsLine
  exact absurd (Json.isPrintable_chars _ '\n' endsLine).1 (by decide)

namespace Session

variable {session other last : Session} {record : Record} {handler : Handler}

/-! ## Emitting -/

structure Continues (session other : Session) : Prop where
  room : other.room = session.room
  threshold : other.threshold = session.threshold
  handlers : other.handlers = session.handlers
  opened : other.opened = session.opened
  grows : session.system.Grows other.system

namespace Continues

theorem refl (session : Session) : session.Continues session :=
  ⟨rfl, rfl, rfl, rfl, .refl _⟩

theorem trans (continues : session.Continues other) (further : other.Continues last) :
    session.Continues last where
  room := further.room.trans continues.room
  threshold := further.threshold.trans continues.threshold
  handlers := further.handlers.trans continues.handlers
  opened := further.opened.trans continues.opened
  grows := continues.grows.trans further.grows

end Continues

theorem continues_showText (session : Session) (text : String) :
    session.Continues (session.showText text) :=
  ⟨rfl, rfl, rfl, rfl, .refl _⟩

private theorem continues_appendLine (session : Session) (place : Location) (line : String) :
    session.Continues (session.appendLine place line) := by
  unfold appendLine
  split
  · rename_i system appended
    exact ⟨rfl, rfl, rfl, rfl, .of_appendTo appended⟩
  · exact .refl session

theorem continues_elim {text? : Option String} {show' : String → Session}
    (each : ∀ text, session.Continues (show' text)) :
    session.Continues (text?.elim session show') := by
  cases text? with
  | none => exact .refl session
  | some text => exact each text

private theorem continues_deliver (session : Session) (record : Record) (handler : Handler) :
    session.Continues (session.deliver record handler) := by
  unfold deliver
  split
  · exact .refl session
  · split
    · exact continues_elim (session.continues_appendLine _)
    · exact continues_elim session.continues_showText
    · exact .refl session

private theorem continues_foldl_deliver (session : Session) (record : Record)
    (handlers : List Handler) :
    session.Continues
      (handlers.foldl (fun session handler => session.deliver record handler) session) := by
  induction handlers generalizing session with
  | nil => exact .refl session
  | cons handler rest induction =>
      exact (session.continues_deliver record handler).trans (induction _)

theorem continues_emit (session : Session) (record : Record) :
    session.Continues (session.emit record) := by
  unfold emit deliverUnhandled
  repeat' split
  · exact .refl session
  · exact continues_elim session.continues_showText
  · exact session.continues_foldl_deliver record _
  · exact .refl session

theorem continues_foldl_emit (session : Session) (records : List Record) :
    session.Continues (records.foldl Session.emit session) := by
  induction records generalizing session with
  | nil => exact .refl session
  | cons record rest induction => exact (session.continues_emit record).trans (induction _)

/-! ## Writing to the log file -/

def Settings.handlers (settings : Settings) (place : Location) : List Handler :=
  ⟨.file place, settings.threshold⟩
    :: (if settings.showsConsole then [⟨.console, settings.threshold⟩] else [])

/-- What the log file gets for a record: nothing for one that does not count. -/
def Settings.written (settings : Settings) (room : Room) (record : Record) : List UInt8 :=
  if 0 < record.level ∧ settings.threshold ≤ record.level then record.bytes room else []

theorem Settings.written_of_counts {settings : Settings} {room : Room}
    (counts : 0 < record.level ∧ settings.threshold ≤ record.level) :
    settings.written room record = record.bytes room :=
  if_pos counts

theorem Settings.written_of_ignored {settings : Settings} {room : Room}
    (ignored : ¬(0 < record.level ∧ settings.threshold ≤ record.level)) :
    settings.written room record = [] :=
  if_neg ignored

/-- A log that has been set up: it has the level and the handlers that were asked for. -/
structure IsSetUp (session : Session) (settings : Settings) (place : Location) : Prop where
  threshold : session.threshold = settings.threshold
  handlers : session.handlers = settings.handlers place

/-- A log that has been set up and writes to the file at a trail. -/
structure WritesTo (session : Session) (settings : Settings) (place : Location) (trail : Trail) :
    Prop extends session.IsSetUp settings place where
  found : session.system.lookup true place = .ok (.entry trail)
  isFile : ∃ content, session.system.content? trail = some content

variable {settings : Settings} {place : Location} {trail : Trail}

theorem IsSetUp.emit (isSetUp : session.IsSetUp settings place) (record : Record) :
    (session.emit record).IsSetUp settings place := by
  have continues := session.continues_emit record
  exact ⟨continues.threshold.trans isSetUp.threshold, continues.handlers.trans isSetUp.handlers⟩

private theorem system_deliver_console (session : Session) (record : Record) (threshold : Level) :
    (session.deliver record ⟨.console, threshold⟩).system = session.system := by
  unfold deliver
  split
  · rfl
  · cases (record.consoleText session.room).toOption <;> rfl

namespace IsSetUp

variable (isSetUp : session.IsSetUp settings place)
include isSetUp

theorem system_emit (counts : 0 < record.level ∧ settings.threshold ≤ record.level) :
    (session.emit record).system =
      (session.deliver record ⟨.file place, settings.threshold⟩).system := by
  have enabled : session.isEnabled record.level = true := by
    simpa [isEnabled, isSetUp.threshold] using counts
  rw [Session.emit, if_pos enabled, isSetUp.handlers]
  unfold Settings.handlers
  split
  · exact system_deliver_console _ record _
  · rfl

theorem emit_eq_self (ignored : ¬(0 < record.level ∧ settings.threshold ≤ record.level)) :
    session.emit record = session := by
  have notEnabled : ¬session.isEnabled record.level = true := by
    simpa [isEnabled, isSetUp.threshold] using ignored
  rw [Session.emit, if_neg notEnabled]

theorem system_emit_of_noLine (noLine : ¬∃ line, record.line session.room = .ok line) :
    (session.emit record).system = session.system := by
  by_cases counts : 0 < record.level ∧ settings.threshold ≤ record.level
  · rw [isSetUp.system_emit counts, deliver]
    split
    · rfl
    · cases isLine : record.line session.room with
      | error fault => rfl
      | ok line => exact absurd ⟨line, isLine⟩ noLine
  · rw [isSetUp.emit_eq_self counts]

private theorem system_emit_of_noContent
    (found : session.system.lookup true place = .ok (.entry trail))
    (nothing : session.system.content? trail = none) (record : Record) :
    (session.emit record).system = session.system := by
  by_cases counts : 0 < record.level ∧ settings.threshold ≤ record.level
  · rw [isSetUp.system_emit counts]
    unfold deliver
    split
    · rfl
    · cases (record.line session.room).toOption with
      | none => rfl
      | some line =>
          simp only [Option.elim, appendLine]
          split
          · rename_i system appended
            exact FileSystem.eq_of_appendTo found nothing appended
          · rfl
  · rw [isSetUp.emit_eq_self counts]

end IsSetUp

theorem WritesTo.appends_emit (writes : session.WritesTo settings place trail)
    (hasLine : record.HasLine session.room) :
    session.system.Appends trail (settings.written session.room record)
      (session.emit record).system := by
  rcases writes.isFile with ⟨content, holds⟩
  by_cases counts : 0 < record.level ∧ settings.threshold ≤ record.level
  · rcases hasLine.exists_line with ⟨line, isLine, _, isWritten⟩
    rcases FileSystem.exists_appendTo writes.found holds (record.bytes session.room) with
      ⟨system, appended, appends⟩
    have notBelow : ¬record.level < settings.threshold := Int.not_lt.mpr counts.2
    have delivered : (session.deliver record ⟨.file place, settings.threshold⟩).system =
      system := by
      rw [deliver, if_neg notBelow, isLine]
      simp only [Except.toOption, Option.elim, appendLine, ← isWritten, appended]
    rw [writes.system_emit counts, delivered, settings.written_of_counts counts]
    exact appends
  · rw [writes.emit_eq_self counts, settings.written_of_ignored counts]
    exact ⟨.refl _, by simp [holds], fun _ _ => rfl⟩

theorem WritesTo.emit (writes : session.WritesTo settings place trail)
    (hasLine : record.HasLine session.room) :
    (session.emit record).WritesTo settings place trail where
  toIsSetUp := writes.toIsSetUp.emit record
  found := (session.continues_emit record).grows.lookup_entry writes.found
  isFile := ⟨_, (writes.appends_emit hasLine).content⟩

theorem WritesTo.appends_foldl_emit {records : List Record}
    (writes : session.WritesTo settings place trail)
    (haveLines : ∀ record ∈ records, record.HasLine session.room) :
    (records.foldl Session.emit session).WritesTo settings place trail ∧
      session.system.Appends trail (records.flatMap (settings.written session.room))
        (records.foldl Session.emit session).system := by
  induction records generalizing session with
  | nil =>
      rcases writes.isFile with ⟨content, holds⟩
      exact ⟨writes, .refl _, by simp [holds], fun _ _ => rfl⟩
  | cons record rest induction =>
      rcases List.forall_mem_cons.mp haveLines with ⟨hasLine, restHave⟩
      have sameRoom := (session.continues_emit record).room
      rcases induction (writes.emit hasLine) (sameRoom ▸ restHave) with ⟨stillWrites, appends⟩
      rw [sameRoom] at appends
      exact ⟨stillWrites, (writes.appends_emit hasLine).trans appends⟩

/-! ## The place of the log file -/

def logPlace (session : Session) (day : Time.Date) (settings : Settings) : Location :=
  openedPlace session.system (fileIn (session.directoryOf settings) day)

private theorem isDigit_of_mem_padded {width value : Nat} {char : Char}
    (member : char ∈ (Time.padded width value).toList) : char.isDigit = true := by
  simp only [Time.padded, String.toList_append, String.toList_ofList, List.mem_append,
    List.mem_replicate] at member
  rcases member with ⟨-, rfl⟩ | digit
  · rfl
  · exact Nat.isDigit_of_mem_toDigits (by decide) (by decide) (Nat.toList_repr ▸ digit)

private theorem isName_fileName (day : Time.Date) : IsName (fileName day) := by
  have isOrdinary : Path.IsOrdinary (fileName day) := by
    apply Path.IsOrdinary.of_length
    simp only [fileName, String.toList_append, List.length_append]
    exact Nat.lt_add_left _ (by decide)
  have isOther : ∀ char, char.isDigit = false → char ∉ "projgraph_".toList → char ∉ ".log".toList →
      char ∉ (fileName day).toList := by
    intro char noDigit notBefore notAfter member
    have noNumber : ∀ width value, char ∉ (Time.padded width value).toList := by
      intro width value digit
      rw [isDigit_of_mem_padded digit] at noDigit
      cases noDigit
    simp only [fileName, String.toList_append, List.mem_append, notBefore, notAfter, noNumber,
      or_self] at member
  exact ⟨isOrdinary.nonempty, isOrdinary.not_here, isOrdinary.not_above,
    isOther '/' (by decide) (by decide) (by decide), isOther _ (by decide) (by decide) (by decide)⟩

private theorem absolute_fileIn (system : FileSystem) (directory : Location) (day : Time.Date) :
    system.absolute (fileIn directory day) = fileIn (system.absolute directory) day := by
  unfold FileSystem.absolute
  by_cases absolute : directory.isAbsolute = true
  · have fileAbsolute : (fileIn directory day).isAbsolute = true := absolute
    rw [if_pos absolute, if_pos fileAbsolute]
  · have fileRelative : ¬(fileIn directory day).isAbsolute = true := absolute
    rw [if_neg absolute, if_neg fileRelative]
    simp only [fileIn, List.append_assoc]

theorem logPlace_eq {session : Session} {settings : Settings}
    (isAnchor : (session.directoryOf settings).anchor ∈ ["", "/", "//"])
    (named : ∀ part ∈ (session.system.absolute (session.directoryOf settings)).parts, IsName part)
    (day : Time.Date) :
    session.logPlace day settings =
      session.system.absolute (fileIn (session.directoryOf settings) day) := by
  rw [logPlace, openedPlace, absolute_fileIn]
  refine Location.ofText_canonical_text ?_ (IsName.concat named (isName_fileName day))
  change (session.system.absolute (session.directoryOf settings)).anchor ∈ ["/", "//"]
  unfold FileSystem.absolute
  split
  · rename_i absolute
    have someAnchor : (session.directoryOf settings).anchor ≠ "" := by
      simpa [Location.isAbsolute] using absolute
    exact (List.mem_cons.mp isAnchor).resolve_left someAnchor
  · exact List.mem_cons_self

/-! ## Setting up -/

def setupRecord (session : Session) (created : Time.Timestamp) (day : Time.Date)
    (settings : Settings) : Record :=
  .ofEvent created (setupEvent (fileIn (session.directoryOf settings) day) settings.threshold)

def prepared (session : Session) (day : Time.Date) (settings : Settings) (system : FileSystem) :
    Session where
  room := session.room
  system := system
  threshold := settings.threshold
  handlers := settings.handlers (session.logPlace day settings)
  opened := (session.handlers.filterMap Handler.file?).foldl List.erase session.opened
    ++ [session.logPlace day settings]
  shown := session.shown

theorem setUp_of_ok {created : Time.Timestamp} {day : Time.Date} {file : Location}
    (succeeded : (session.setUp created day settings).2 = .ok file) :
    ∃ furnished written,
      session.system.Furnishes furnished ∧
      furnished.appendTo (session.logPlace day settings) [] = .ok written ∧
      (session.setUp created day settings).1 =
        (session.prepared day settings written).emit
          (session.setupRecord created day settings) := by
  unfold setUp at succeeded ⊢
  cases ensured : session.system.ensureDirectories (session.directoryOf settings) with
  | error fault => simp [ensured] at succeeded
  | ok furnished =>
      have furnishes := FileSystem.furnishes_ensureDirectories ensured
      have samePlace : openedPlace furnished (fileIn (session.directoryOf settings) day) =
          session.logPlace day settings := by
        unfold logPlace openedPlace FileSystem.absolute
        rw [furnishes.grows.workingDirectory]
      simp only [ensured, addFile, release, samePlace] at succeeded ⊢
      cases appended : furnished.appendTo (session.logPlace day settings) [] with
      | error cause => simp [appended] at succeeded
      | ok written =>
          refine ⟨furnished, written, furnishes, appended, ?_⟩
          cases shows : settings.showsConsole <;>
            simp [addConsole, prepared, Settings.handlers, shows, emitEvents, setupRecord]

/-- The record about setting up has a line if its time is in the calendar and there is room for an
object. -/
theorem hasLine_setupRecord {created : Time.Timestamp} {moment : Time.Moment} {room : Room}
    (timed : created.moment = .ok moment) (isRoom : 0 < room.line) (session : Session)
    (day : Time.Date) (settings : Settings) :
    (session.setupRecord created day settings).HasLine room where
  timed := ⟨moment, by rw [Record.moment, setupRecord, Record.ofEvent, timed]; rfl⟩
  formatted := ⟨_, rfl⟩
  unhindered := Field.firstFault_eq_none _ _ _ rfl isRoom

section SetUp

variable {created : Time.Timestamp} {day : Time.Date} {file : Location}
  (succeeded : (session.setUp created day settings).2 = .ok file)

include succeeded

theorem isSetUp_setUp :
    (session.setUp created day settings).1.IsSetUp settings (session.logPlace day settings) := by
  rcases setUp_of_ok succeeded with ⟨furnished, written, _, _, isResult⟩
  rw [isResult]
  exact IsSetUp.emit ⟨rfl, rfl⟩ _

theorem opened_setUp :
    (session.setUp created day settings).1.opened =
      (session.handlers.filterMap Handler.file?).foldl List.erase session.opened
        ++ [session.logPlace day settings] := by
  rcases setUp_of_ok succeeded with ⟨furnished, written, _, _, isResult⟩
  rw [isResult]
  exact (continues_emit _ _).opened

theorem grows_setUp : session.system.Grows (session.setUp created day settings).1.system := by
  rcases setUp_of_ok succeeded with ⟨furnished, written, furnishes, appended, isResult⟩
  rw [isResult]
  exact (furnishes.grows.trans (.of_appendTo appended)).trans
    ((session.prepared day settings written).continues_emit _).grows

theorem room_setUp : (session.setUp created day settings).1.room = session.room := by
  rcases setUp_of_ok succeeded with ⟨furnished, written, _, _, isResult⟩
  rw [isResult]
  exact (continues_emit _ _).room

theorem writesTo_setUp
    (hasLine : (session.setupRecord created day settings).HasLine session.room)
    (isFile : (session.setUp created day settings).1.system.isFile?
      (session.logPlace day settings) = .ok true) :
    ∃ trail, (session.setUp created day settings).1.WritesTo settings
        (session.logPlace day settings) trail ∧
      session.system.Appends trail
        (settings.written session.room (session.setupRecord created day settings))
        (session.setUp created day settings).1.system := by
  rcases setUp_of_ok succeeded with ⟨furnished, written, furnishes, appended, isResult⟩
  rw [isResult] at isFile ⊢
  have isSetUp : (session.prepared day settings written).IsSetUp settings
      (session.logPlace day settings) := ⟨rfl, rfl⟩
  rcases FileSystem.appendTo_cases appended with
    ⟨trail, found, created⟩ | ⟨rfl, trail, found, nothing⟩
  · have writes : (session.prepared day settings written).WritesTo settings
        (session.logPlace day settings) trail := ⟨isSetUp, found, _, created.content⟩
    exact ⟨trail, writes.emit hasLine,
      furnishes.appends (created.trans (writes.appends_emit hasLine))⟩
  · -- Without a file at the place there would be none now either.
    rw [isSetUp.system_emit_of_noContent found nothing] at isFile
    rcases FileSystem.exists_content_of_isFile? isFile with ⟨other, content, foundOther, holds⟩
    obtain rfl := FileSystem.Destination.entry.inj (Except.ok.inj (found.symm.trans foundOther))
    cases nothing.symm.trans holds

end SetUp

end Session

end ImportAtlas.Log
