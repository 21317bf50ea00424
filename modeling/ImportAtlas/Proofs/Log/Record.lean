import ImportAtlas.Log.Record
import ImportAtlas.Proofs.Json.RoundTrip

/-! # Lines of log files

A record is one line of JSON. Main statement: a line has only printable characters, and it is read
as the object with the standard fields of the record, which its own fields replace and follow. Only
halves that stand side by side in a text are read as one character.
-/

namespace ImportAtlas.Log

open Text (Coded)

/-! ## Fields -/

namespace Field

private theorem membersToJson_eq_map (members : Fields) :
    membersToJson members = members.map fun member => (member.1, member.2.toJson) := by
  induction members with
  | nil => rfl
  | cons member others induction => rw [membersToJson, induction, List.map_cons]

theorem map_fst_membersToJson (members : Fields) :
    (membersToJson members).map Prod.fst = members.map Prod.fst := by
  rw [membersToJson_eq_map, List.map_map]
  rfl

private theorem get?_membersToJson (name : Coded) (members : Fields) :
    Keyed.get? name (membersToJson members) = (Keyed.get? name members).map toJson := by
  rw [membersToJson_eq_map, Keyed.get?_map]

theorem forall_mem_membersToJson {members : Fields} {holds : Coded × Json → Prop} :
    (∀ member ∈ membersToJson members, holds member) ↔
      ∀ member ∈ members, holds (member.1, member.2.toJson) := by
  rw [membersToJson_eq_map, List.forall_mem_map]

mutual

/-- How much room a field needs, if a place takes so many levels. -/
def levels (place : Nat) : Field → Nat
  | .place _ => place
  | .list items => itemsLevels place items + 1
  | .object members => membersLevels place members + 1
  | _ => 0

def itemsLevels (place : Nat) : List Field → Nat
  | [] => 0
  | head :: tail => max (levels place head) (itemsLevels place tail)

def membersLevels (place : Nat) : List (Coded × Field) → Nat
  | [] => 0
  | (_, value) :: tail => max (levels place value) (membersLevels place tail)

end

mutual

theorem firstFault_eq_none (place room : Nat) : (field : Field) →
    field.toJson.isWritable = true → field.levels place ≤ room →
      field.firstFault place room = none
  | .null, _, _ | .bool _, _, _ | .float _, _, _ | .text _, _, _ => rfl
  | .int _, writable, _ => if_pos (of_decide_eq_true writable)
  | .place _, _, fits => if_pos fits
  | .list items, writable, fits => by
      obtain ⟨less, rfl⟩ := Nat.exists_eq_add_of_le' (Nat.le_trans (Nat.le_add_left 1 _) fits)
      exact firstFaultOfItems_eq_none place less items writable (Nat.le_of_succ_le_succ fits)
  | .object members, writable, fits => by
      obtain ⟨less, rfl⟩ := Nat.exists_eq_add_of_le' (Nat.le_trans (Nat.le_add_left 1 _) fits)
      exact firstFaultOfMembers_eq_none place less members writable (Nat.le_of_succ_le_succ fits)

theorem firstFaultOfItems_eq_none (place room : Nat) : (items : List Field) →
    Json.itemsWritable (itemsToJson items) = true → itemsLevels place items ≤ room →
      firstFaultOfItems place room items = none
  | [], _, _ => rfl
  | head :: tail, writable, fits => by
      rcases Bool.and_eq_true_iff.mp writable with ⟨headWritable, tailWritable⟩
      rcases Nat.max_le.mp fits with ⟨headFits, tailFits⟩
      rw [firstFaultOfItems, firstFault_eq_none place room head headWritable headFits,
        Option.none_or, firstFaultOfItems_eq_none place room tail tailWritable tailFits]

theorem firstFaultOfMembers_eq_none (place room : Nat) : (members : List (Coded × Field)) →
    Json.membersWritable (membersToJson members) = true → membersLevels place members ≤ room →
      firstFaultOfMembers place room members = none
  | [], _, _ => rfl
  | (_, value) :: tail, writable, fits => by
      rcases Bool.and_eq_true_iff.mp writable with ⟨valueWritable, tailWritable⟩
      rcases Nat.max_le.mp fits with ⟨valueFits, tailFits⟩
      rw [firstFaultOfMembers, firstFault_eq_none place room value valueWritable valueFits,
        Option.none_or, firstFaultOfMembers_eq_none place room tail tailWritable tailFits]

end

private theorem firstFaultOfMembers_eq_none_iff {place room : Nat} {members : Fields} :
    firstFaultOfMembers place room members = none ↔
      ∀ member ∈ members, member.2.firstFault place room = none := by
  induction members with
  | nil => simp [firstFaultOfMembers]
  | cons member others induction => simp [firstFaultOfMembers, induction]

theorem firstFault_object_eq_none_iff {place room : Nat} {members : Fields} :
    (object members).firstFault place room = none ↔
      ∃ below, room = below + 1 ∧ ∀ member ∈ members, member.2.firstFault place below = none := by
  cases room with
  | zero => simp [firstFault]
  | succ below => simp [firstFault, firstFaultOfMembers_eq_none_iff]

end Field

namespace Record

variable {room : Room} {record : Record} {moment : Time.Moment} {message : Coded}

/-! ## Standard fields -/

/-- The names of the fields that every record has, and of the exception if there is one. -/
def standardNames (record : Record) : List Coded :=
  (["timestamp", "level", "logger", "message"] : List Coded)
    ++ (if record.exception.isSome then (["exception"] : List Coded) else [])

theorem map_fst_standardFields (record : Record) (moment : Time.Moment) (message : Coded) :
    (record.standardFields moment message).map Prod.fst = record.standardNames := by
  unfold standardFields standardNames
  cases record.exception <;> rfl

private theorem nodup_standardNames (record : Record) : record.standardNames.Nodup := by
  unfold standardNames
  split <;> decide

theorem exists_text_of_mem_standardFields {member : Coded × Field}
    (isStandard : member ∈ record.standardFields moment message) :
    ∃ text, member.2 = .text text := by
  simp only [standardFields, List.mem_cons, List.mem_map] at isStandard
  rcases isStandard with rfl | rfl | rfl | rfl | ⟨exception, _, rfl⟩ <;> exact ⟨_, rfl⟩

/-! ## Entries -/

def allFields (record : Record) (moment : Time.Moment) (message : Coded) : Fields :=
  Keyed.update (record.standardFields moment message) record.fields

theorem forall_mem_allFields {holds : Coded × Field → Prop}
    (standard : ∀ member ∈ record.standardFields moment message, holds member)
    (own : ∀ member ∈ record.fields, holds member) :
    ∀ member ∈ record.allFields moment message, holds member :=
  fun member isMember => (Keyed.mem_update isMember).elim (standard member) (own member)

private theorem mem_allFields (distinct : (record.fields.map Prod.fst).Nodup)
    {member : Coded × Field}
    (isField : member ∈ record.fields) : member ∈ record.allFields moment message := by
  refine Keyed.mem_of_get? ?_
  rw [allFields, Keyed.get?_update distinct, Keyed.get?_of_mem distinct isField]
  rfl

private theorem firstFault_of_isStandard {member : Coded × Field}
    (isStandard : member ∈ record.standardFields moment message) (place room : Nat) :
    member.2.firstFault place room = none := by
  rcases exists_text_of_mem_standardFields isStandard with ⟨text, isText⟩
  rw [isText, Field.firstFault]
  all_goals nofun

private theorem firstFault_allFields {place room : Nat}
    (unhindered : (Field.object record.fields).firstFault place room = none) :
    (Field.object (record.allFields moment message)).firstFault place room = none := by
  rcases Field.firstFault_object_eq_none_iff.mp unhindered with ⟨below, isRoom, own⟩
  exact Field.firstFault_object_eq_none_iff.mpr ⟨below, isRoom,
    forall_mem_allFields (fun member isStandard => firstFault_of_isStandard isStandard _ _) own⟩

private theorem firstFault_fields (distinct : (record.fields.map Prod.fst).Nodup) {place room : Nat}
    (unhindered : (Field.object (record.allFields moment message)).firstFault place room = none) :
    (Field.object record.fields).firstFault place room = none := by
  rcases Field.firstFault_object_eq_none_iff.mp unhindered with ⟨below, isRoom, all⟩
  exact Field.firstFault_object_eq_none_iff.mpr ⟨below, isRoom,
    fun member isField => all member (mem_allFields distinct isField)⟩

theorem line_of_ok (timed : record.moment = .ok moment)
    (formatted : record.message room = .ok message) :
    record.line room =
      ((Field.object (record.allFields moment message)).firstFault room.place room.line).elim
        (.ok (Field.object (record.allFields moment message)).toJson.render)
        fun fault => .error (.fields fault) := by
  have isEntry : record.entry room = .ok (.object (record.allFields moment message)) := by
    rw [entry, timed, formatted]
    rfl
  rw [line, isEntry]
  cases found :
      (Field.object (record.allFields moment message)).firstFault room.place room.line with
  | none =>
      simp only [bind, Except.bind, found]
      rfl
  | some fault =>
      simp only [bind, Except.bind, found]
      rfl

theorem line_eq (timed : record.moment = .ok moment) (formatted : record.message room = .ok message)
    (unhindered : (Field.object record.fields).firstFault room.place room.line = none) :
    record.line room = .ok (Field.object (record.allFields moment message)).toJson.render := by
  rw [line_of_ok timed formatted, firstFault_allFields unhindered]
  rfl

structure HasLine (room : Room) (record : Record) : Prop where
  timed : ∃ moment, record.moment = .ok moment
  formatted : ∃ message, record.message room = .ok message
  unhindered : (Field.object record.fields).firstFault room.place room.line = none

theorem exists_line_iff (distinct : (record.fields.map Prod.fst).Nodup) :
    (∃ line, record.line room = .ok line) ↔ record.HasLine room := by
  constructor
  · rintro ⟨line, isLine⟩
    cases timed : record.moment with
    | error fault => simp [Record.line, entry, timed, bind, Except.bind] at isLine
    | ok moment =>
        cases formatted : record.message room with
        | error fault => simp [Record.line, entry, timed, formatted, bind, Except.bind] at isLine
        | ok message =>
            rw [line_of_ok timed formatted] at isLine
            cases found : (Field.object (record.allFields moment message)).firstFault room.place
                room.line with
            | none => exact ⟨⟨moment, timed⟩, ⟨message, formatted⟩,
              firstFault_fields distinct found⟩
            | some fault => simp [found] at isLine
  · rintro ⟨⟨moment, timed⟩, ⟨message, formatted⟩, unhindered⟩
    exact ⟨_, line_eq timed formatted unhindered⟩

private theorem isWritable_allFields
    (writable : (Field.object record.fields).toJson.isWritable = true) :
    (Field.object (record.allFields moment message)).toJson.isWritable = true := by
  have own := Field.forall_mem_membersToJson.mp (Json.membersWritable_iff.mp writable)
  refine Json.membersWritable_iff.mpr (Field.forall_mem_membersToJson.mpr
    (forall_mem_allFields (fun member isStandard => ?_) own))
  rcases exists_text_of_mem_standardFields isStandard with ⟨text, isText⟩
  rw [isText]
  rfl

private theorem depth_allFields_le (record : Record) (moment : Time.Moment) (message : Coded) :
    (Field.object (record.allFields moment message)).toJson.depth ≤
      (Field.object record.fields).toJson.depth := by
  have own : ∀ member ∈ Field.membersToJson record.fields,
      member.2.depth ≤ Json.membersDepth (Field.membersToJson record.fields) :=
    Json.membersDepth_le_iff.mp (Nat.le_refl _)
  refine Nat.succ_le_succ (Json.membersDepth_le_iff.mpr (Field.forall_mem_membersToJson.mpr
    (forall_mem_allFields (fun member isStandard => ?_) (Field.forall_mem_membersToJson.mp own))))
  rcases exists_text_of_mem_standardFields isStandard with ⟨text, isText⟩
  rw [isText]
  exact Nat.zero_le _

/-! ## Texts -/

/-- Whether no text of a record has halves side by side that make a character, and no object among
its fields has a name twice. -/
structure IsPlain (record : Record) (message : Coded) : Prop where
  logger : record.logger.IsUnpaired
  message : message.IsUnpaired
  exception : ∀ exception ∈ record.exception, exception.text.IsUnpaired
  fields : (Field.object record.fields).toJson.isPlain = true

private theorem isUnpaired_summary {exception : Exception}
    (unpaired : exception.text.IsUnpaired) : exception.summary.IsUnpaired := by
  unfold Exception.summary
  split
  · exact Coded.isUnpaired_ofText _
  · rw [List.append_assoc]
    exact Coded.isUnpaired_ofText_append _ (Coded.isUnpaired_ofText_append _ unpaired)

private theorem isPlain_allFields (plain : record.IsPlain message) (moment : Time.Moment) :
    (Field.object (record.allFields moment message)).toJson.isPlain = true := by
  have own := Field.forall_mem_membersToJson.mp (Json.isPlain_object.mp plain.fields).2
  refine Json.isPlain_object.mpr
    ⟨?_, Field.forall_mem_membersToJson.mpr (forall_mem_allFields ?_ own)⟩
  · rw [Field.map_fst_membersToJson]
    refine Keyed.nodup_update ?_ record.fields
    rw [map_fst_standardFields]
    exact record.nodup_standardNames
  · intro member isStandard
    have ofText : ∀ text : String, (Field.text text).toJson.isPlain = true :=
      fun text => decide_eq_true (Coded.isUnpaired_ofText text)
    simp only [standardFields, List.mem_cons, List.mem_map] at isStandard
    rcases isStandard with rfl | rfl | rfl | rfl | ⟨exception, isGiven, rfl⟩
    · exact ⟨Coded.isUnpaired_ofText _, ofText _⟩
    · exact ⟨Coded.isUnpaired_ofText _, ofText _⟩
    · exact ⟨Coded.isUnpaired_ofText _, decide_eq_true plain.logger⟩
    · exact ⟨Coded.isUnpaired_ofText _, decide_eq_true plain.message⟩
    · exact ⟨Coded.isUnpaired_ofText _,
        decide_eq_true (isUnpaired_summary (plain.exception exception (by simpa using isGiven)))⟩

/-! ## Lines -/

/-- The line of a record with a valid time and a valid message, for whose fields there is room, is
one line of printable characters. On it the standard fields come first and in their order; the
record's own replace them in their place or follow them, and every place among them is its text.
The line is read as these fields, with the pairs of halves in their texts joined. -/
theorem line_readsBack (room : Room) (record : Record) (moment : Time.Moment) (message : Coded)
    (timed : record.moment = .ok moment) (formatted : record.message room = .ok message)
    (distinct : (record.fields.map Prod.fst).Nodup)
    (writable : (Field.object record.fields).toJson.isWritable = true)
    (fits : (Field.object record.fields).levels room.place ≤ room.line) :
    ∃ line members,
      record.line room = .ok line ∧
      (∀ char ∈ line.toList, 32 ≤ char.toNat ∧ char.toNat < 127) ∧
      members.map Prod.fst =
        record.standardNames ++
          (record.fields.map Prod.fst).filter (fun name => name ∉ record.standardNames) ∧
      (∀ name, Keyed.get? name members =
        ((Keyed.get? name record.fields).or
          (Keyed.get? name (record.standardFields moment message))).map Field.toJson) ∧
      ∀ limit, (Field.object record.fields).toJson.depth ≤ limit →
        Json.parseWithin limit line.toList = .ok (Json.object members).joined ∧
          (record.IsPlain message →
            Json.parseWithin limit line.toList = .ok (.object members)) := by
  have unhindered := Field.firstFault_eq_none room.place room.line _ writable fits
  refine ⟨_, Field.membersToJson (record.allFields moment message),
    line_eq timed formatted unhindered, ?_, ?_, ?_, ?_⟩
  · rw [Json.render, String.toList_ofList]
    exact Json.isPrintable_chars _
  · rw [Field.map_fst_membersToJson, allFields, Keyed.map_fst_update distinct,
      map_fst_standardFields]
    congr!
  · intro name
    rw [Field.get?_membersToJson, allFields, Keyed.get?_update distinct]
  · intro limit bounded
    have read : Json.parseWithin limit
        (Field.object (record.allFields moment message)).toJson.render.toList =
          .ok (Field.object (record.allFields moment message)).toJson.joined := by
      rw [Json.render, String.toList_ofList]
      exact Json.parseWithin_of_spells (Json.spells_chars _ (isWritable_allFields writable))
        (Nat.le_trans (depth_allFields_le record moment message) bounded)
    refine ⟨read, fun plain => ?_⟩
    rw [read, Json.joined_of_isPlain _ (isPlain_allFields plain moment)]
    rfl

def nestedRecord : Record where
  logger := "a"
  level := 30
  template := Coded.ofText "é %d" ++ [.half 0x3D]
  arguments := [.int 7]
  created := .fractional (.ofDecimal false 15 (-1))
  exception := some ⟨"ValueError", "\"b\"\n"⟩
  fields :=
    [("root", .object [("at", .list [.place "/r//a", .float (.ofDecimal true 25 (-2))])]),
      ("level", .int (-3))]

theorem line_readsBack_nestedRecord :
    ∃ line, ∃ members : List (Coded × Json),
      nestedRecord.line ⟨1, 4, 1⟩ = .ok line ∧
      (∀ char ∈ line.toList, 32 ≤ char.toNat ∧ char.toNat < 127) ∧
      members.map Prod.fst =
        (["timestamp", "level", "logger", "message", "exception", "root"] : List Coded) ∧
      (Json.object members).member? "message" = some (.text (Coded.ofText "é 7" ++ [.half 0x3D])) ∧
      Json.parseWithin 3 line.toList = .ok (.object members) := by
  rcases line_readsBack ⟨1, 4, 1⟩ nestedRecord ⟨⟨1970, 1, 1⟩, ⟨0, 0, 1, 500000⟩, some 0⟩
    (Coded.ofText "é 7" ++ [.half 0x3D]) (by decide +kernel) (by decide +kernel) (by decide)
    (by decide +kernel)
    (by decide) with ⟨line, members, isLine, printable, names, values, read⟩
  have plain : nestedRecord.IsPlain (Coded.ofText "é 7" ++ [.half 0x3D]) :=
    ⟨by decide, by decide, by decide, by decide +kernel⟩
  refine ⟨line, members, isLine, printable, ?_, ?_, (read 3 (by decide +kernel)).2 plain⟩
  · rw [names]
    decide
  · rw [Json.member?, values]
    rfl

def lateRecord : Record where
  logger := "projgraph.test"
  level := 30
  template := "walk failed"
  arguments := []
  created := .whole 253402300800
  exception := none
  fields := []

def pairedRecord : Record where
  logger := "a"
  level := 30
  template := [.half 0x3D, .half 0x600]
  arguments := []
  created := .whole 0
  exception := none
  fields := []

theorem line_fails_of_lateRecord :
    lateRecord.message ⟨0, 1, 0⟩ = .ok "walk failed" ∧
      lateRecord.line ⟨0, 1, 0⟩ = .error (.time (.year 10000)) ∧
      pairedRecord.message ⟨0, 1, 0⟩ = .ok [.half 0x3D, .half 0x600] ∧
      (pairedRecord.line ⟨0, 1, 0⟩).map (fun line =>
          (Json.parseWithin 1 line.toList).toOption.bind fun read =>
            (read.member? "message").bind Json.text?) =
        .ok (some "😀") := by
  refine ⟨by decide +kernel, by decide +kernel, by decide +kernel, by decide +kernel⟩

end Record

end ImportAtlas.Log
