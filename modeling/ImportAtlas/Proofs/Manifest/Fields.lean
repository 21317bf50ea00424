import ImportAtlas.Manifest.Basic
import ImportAtlas.Proofs.Keyed
import ImportAtlas.Proofs.Outcome
import ImportAtlas.Proofs.Text.Halves

/-! # What an object says as a manifest

Five members of an object have a meaning, each with the shape that its value has to have. Main
statement: an object is a manifest exactly if each of them has its shape or is missing, the manifest
then holds what they say, and otherwise the first one without its shape is named. No other member
makes a difference.
-/

namespace ImportAtlas.Manifest

open Text (Coded)

open Outcome (bind_eq_ok_iff bind_eq_error_iff eq_error_iff_of_reads)

variable {members left right : List (Coded × Json)}

/-! ## Fields with a meaning -/

inductive Shape
  | text
  | texts
deriving DecidableEq, Repr

def fields : List (String × Shape) :=
  [("name", .text), ("version", .text), ("dependencies", .texts), ("devDependencies", .texts),
    ("scripts", .texts)]

def IsSilent (members : List (Coded × Json)) (field : String) : Prop :=
  Keyed.get? (field : Coded) members = none ∨ Keyed.get? (field : Coded) members = some .null

inductive GivesText (members : List (Coded × Json)) (field : String) : Option Coded → Prop
  | nothing (silent : IsSilent members field) : GivesText members field none
  | text {value : Coded} (found : Keyed.get? (field : Coded) members = some (.text value)) :
      GivesText members field (some value)

inductive GivesTexts (members : List (Coded × Json)) (field : String) :
    Option (List (Coded × Coded)) → Prop
  | nothing (silent : IsSilent members field) : GivesTexts members field none
  | texts {values : List (Coded × Coded)}
      (found : Keyed.get? (field : Coded) members = some (textsToJson values)) :
      GivesTexts members field (some values)

/-- Whether the members of an object give what a manifest holds. -/
structure Gives (members : List (Coded × Json)) (manifest : Manifest) : Prop where
  name : GivesText members "name" manifest.name
  version : GivesText members "version" manifest.version
  dependencies : GivesTexts members "dependencies" manifest.dependencies
  devDependencies : GivesTexts members "devDependencies" manifest.devDependencies
  scripts : GivesTexts members "scripts" manifest.scripts

namespace Shape

def Fits (members : List (Coded × Json)) (field : String) : Shape → Prop
  | text => ∃ value, GivesText members field value
  | texts => ∃ values, GivesTexts members field values

def fault (field : String) : Shape → Fault
  | text => .notText field
  | texts => .notTexts field

end Shape

/-- Whether a fault is about the first one of some fields that is not of its shape. -/
def IsFirstFault (members : List (Coded × Json)) (among : List (String × Shape))
    (fault : Fault) : Prop :=
  ∃ before field shape after, among = before ++ (field, shape) :: after ∧
    (∀ earlier ∈ before, earlier.2.Fits members earlier.1) ∧ ¬shape.Fits members field ∧
    fault = shape.fault field

private theorem not_isFirstFault_nil {fault : Fault} : ¬IsFirstFault members [] fault := by
  rintro ⟨before, field, shape, after, parts, _⟩
  simp at parts

private theorem isFirstFault_cons {field : String} {shape : Shape} {rest : List (String × Shape)}
    {fault : Fault} :
    IsFirstFault members ((field, shape) :: rest) fault ↔
      (¬shape.Fits members field ∧ fault = shape.fault field) ∨
        (shape.Fits members field ∧ IsFirstFault members rest fault) := by
  constructor
  · rintro ⟨before, named, own, after, parts, fit, unfit, isFault⟩
    cases before with
    | nil =>
        rw [List.nil_append, List.cons.injEq, Prod.mk.injEq] at parts
        rcases parts with ⟨⟨rfl, rfl⟩, rfl⟩
        exact Or.inl ⟨unfit, isFault⟩
    | cons first others =>
        rw [List.cons_append, List.cons.injEq] at parts
        rcases parts with ⟨rfl, rfl⟩
        rw [List.forall_mem_cons] at fit
        exact Or.inr ⟨fit.1, others, named, own, after, rfl, fit.2, unfit, isFault⟩
  · rintro (⟨unfit, isFault⟩ | ⟨fits, before, named, own, after, rfl, fit, unfit, isFault⟩)
    · exact ⟨[], field, shape, rest, rfl, nofun, unfit, isFault⟩
    · exact ⟨(field, shape) :: before, named, own, after, rfl,
        List.forall_mem_cons.mpr ⟨fits, fit⟩, unfit, isFault⟩

/-! ## Reading one field -/

private theorem textMembers?_cons (name : Coded) (value : Json) (rest : List (Coded × Json)) :
    textMembers? ((name, value) :: rest) =
      value.text?.bind fun text => (textMembers? rest).map ((name, text) :: ·) := by
  rw [textMembers?, List.mapM_cons]
  cases value with
  | text own => exact Option.map_eq_bind.symm
  | _ => rfl

private theorem textMembers?_eq_some_iff {texts : List (Coded × Coded)} :
    textMembers? members = some texts ↔
      members = texts.map fun (name, text) => (name, Json.text text) := by
  induction members generalizing texts with
  | nil => cases texts <;> simp [textMembers?]
  | cons member rest induction =>
      rcases member with ⟨name, value⟩
      rw [textMembers?_cons]
      cases texts with
      | nil => cases value <;> simp [Json.text?]
      | cons first others =>
          cases value with
          | text own =>
              simp only [Json.text?, Option.bind_some, Option.map_eq_some_iff, induction,
                List.map_cons, List.cons.injEq]
              constructor
              · rintro ⟨_, areOthers, rfl, rfl⟩
                exact ⟨rfl, areOthers⟩
              · rintro ⟨isFirst, areOthers⟩
                rw [Prod.mk.injEq, Json.text.injEq] at isFirst
                exact ⟨others, areOthers, Prod.ext isFirst.1 isFirst.2, rfl⟩
          | _ => simp [Json.text?]

theorem textField_eq_ok_iff {field : String} {value : Option Coded} :
    textField (.object members) field = .ok value ↔ GivesText members field value := by
  constructor
  · intro read
    rw [textField, Json.member?] at read
    split at read
    · rename_i found
      exact Except.ok.inj read ▸ .nothing (Or.inl found)
    · rename_i found
      exact Except.ok.inj read ▸ .nothing (Or.inr found)
    · rename_i found
      exact Except.ok.inj read ▸ .text found
    · cases read
  · rintro (⟨found | found⟩ | found) <;> simp only [textField, Json.member?, found]

private theorem textField_eq_error_iff {field : String} {fault : Fault} :
    textField (.object members) field = .error fault ↔
      ¬Shape.text.Fits members field ∧ fault = Shape.text.fault field := by
  refine eq_error_iff_of_reads textField_eq_ok_iff ?_
  intro other failed
  rw [textField] at failed
  split at failed <;> cases failed
  rfl

theorem textsField_eq_ok_iff {field : String} {values : Option (List (Coded × Coded))} :
    textsField (.object members) field = .ok values ↔ GivesTexts members field values := by
  constructor
  · intro read
    rw [textsField, Json.member?] at read
    split at read
    · rename_i found
      exact Except.ok.inj read ▸ .nothing (Or.inl found)
    · rename_i found
      exact Except.ok.inj read ▸ .nothing (Or.inr found)
    · rename_i found
      split at read
      · rename_i areTexts
        rw [textMembers?_eq_some_iff.mp areTexts] at found
        exact Except.ok.inj read ▸ .texts found
      · cases read
    · cases read
  · rintro (⟨found | found⟩ | found)
    · simp only [textsField, Json.member?, found]
    · simp only [textsField, Json.member?, found]
    · simp only [textsField, Json.member?, found, textsToJson, textMembers?_eq_some_iff.mpr rfl]

private theorem textsField_eq_error_iff {field : String} {fault : Fault} :
    textsField (.object members) field = .error fault ↔
      ¬Shape.texts.Fits members field ∧ fault = Shape.texts.fault field := by
  refine eq_error_iff_of_reads textsField_eq_ok_iff ?_
  intro other failed
  rw [textsField] at failed
  repeat' split at failed
  all_goals cases failed
  all_goals rfl

/-! ## Reading all fields -/

private theorem parse_object_eq_ok_iff {manifest : Manifest} :
    parse (.object members) = .ok manifest ↔ Gives members manifest := by
  simp only [parse, bind_eq_ok_iff, textField_eq_ok_iff, textsField_eq_ok_iff]
  constructor
  · rintro ⟨name, isName, version, isVersion, dependencies, areDependencies, devDependencies,
      areDevDependencies, scripts, areScripts, made⟩
    exact Except.ok.inj made ▸ ⟨isName, isVersion, areDependencies, areDevDependencies, areScripts⟩
  · rintro ⟨isName, isVersion, areDependencies, areDevDependencies, areScripts⟩
    exact ⟨_, isName, _, isVersion, _, areDependencies, _, areDevDependencies, _, areScripts, rfl⟩

private theorem parse_object_eq_error_iff {fault : Fault} :
    parse (.object members) = .error fault ↔ IsFirstFault members fields fault := by
  have text (field : String) (P : Prop) : (∃ value, GivesText members field value ∧ P) ↔
      Shape.text.Fits members field ∧ P := exists_and_right
  have texts (field : String) (P : Prop) : (∃ values, GivesTexts members field values ∧ P) ↔
      Shape.texts.Fits members field ∧ P := exists_and_right
  have noError (manifest : Manifest) : (pure manifest : Except Fault Manifest) ≠ .error fault :=
    nofun
  simp only [parse, bind_eq_error_iff, textField_eq_ok_iff, textsField_eq_ok_iff,
    textField_eq_error_iff, textsField_eq_error_iff, text, texts, noError, fields,
    isFirstFault_cons, not_isFirstFault_nil]

theorem parse_congr
    (same : ∀ field ∈ fields,
      Keyed.get? (field.1 : Coded) left = Keyed.get? (field.1 : Coded) right) :
    parse (.object left) = parse (.object right) := by
  have texts (field : String) (inFields : (field, Shape.text) ∈ fields) :
      textField (.object left) field = textField (.object right) field := by
    rw [textField, textField, Json.member?, Json.member?, same _ inFields]
  have objects (field : String) (inFields : (field, Shape.texts) ∈ fields) :
      textsField (.object left) field = textsField (.object right) field := by
    rw [textsField, textsField, Json.member?, Json.member?, same _ inFields]
  simp only [parse, texts "name" (by decide), texts "version" (by decide),
    objects "dependencies" (by decide), objects "devDependencies" (by decide),
    objects "scripts" (by decide)]

def IsNoObject (document : Json) (fault : Fault) : Prop :=
  (∀ members, document ≠ .object members) ∧
    fault = .notObject (Datum.ofJson document).kindName

private theorem parse_eq_ok_iff {document : Json} {manifest : Manifest} :
    parse document = .ok manifest ↔
      ∃ members, document = .object members ∧ Gives members manifest := by
  cases document with
  | object members => simp [parse_object_eq_ok_iff]
  | _ => simp [parse]

private theorem parse_eq_error_iff {document : Json} {fault : Fault} :
    parse document = .error fault ↔ IsNoObject document fault ∨
      ∃ members, document = .object members ∧ IsFirstFault members fields fault := by
  cases document with
  | object members => simp [parse_object_eq_error_iff, IsNoObject]
  | _ => simp [parse, IsNoObject, eq_comm]

private theorem parse_put {key : Coded} (other : ∀ field ∈ fields, key ≠ field.1) (value : Json) :
    parse (.object (Keyed.put key value members)) = parse (.object members) := by
  refine parse_congr fun field inFields => ?_
  rw [Keyed.get?_put, if_neg (other field inFields)]

private theorem parse_erase {key : Coded} (other : ∀ field ∈ fields, key ≠ field.1) :
    parse (.object (Keyed.erase key members)) = parse (.object members) :=
  parse_congr fun field inFields => Keyed.get?_erase_of_ne (other field inFields).symm members

/-- An object is a manifest exactly if every field with a meaning has its shape or gives nothing;
the manifest holds what the fields give. Anything else is refused, an object for the first of these
fields that has not its shape. Objects that give the same under these fields come to the same, so no
other member counts, whether it is put, taken away or moved. -/
theorem parse_exact :
    (∀ document manifest, parse document = .ok manifest ↔
      ∃ members, document = .object members ∧ Gives members manifest) ∧
    (∀ document fault, parse document = .error fault ↔ IsNoObject document fault ∨
      ∃ members, document = .object members ∧ IsFirstFault members fields fault) ∧
    (∀ left right : List (Coded × Json),
      (∀ field ∈ fields, Keyed.get? (field.1 : Coded) left = Keyed.get? (field.1 : Coded) right) →
        parse (.object left) = parse (.object right)) ∧
    (∀ (members : List (Coded × Json)) (key : Coded),
      (∀ field ∈ fields, key ≠ field.1) →
      (∀ value, parse (.object (Keyed.put key value members)) = parse (.object members)) ∧
        parse (.object (Keyed.erase key members)) = parse (.object members)) ∧
    ∀ members others : List (Coded × Json), members.Perm others →
      (members.map Prod.fst).Nodup → parse (.object others) = parse (.object members) :=
  ⟨fun _ _ => parse_eq_ok_iff, fun _ _ => parse_eq_error_iff, fun _ _ => parse_congr,
    fun _ _ other => ⟨parse_put other, parse_erase other⟩,
    fun _ _ perm distinct => parse_congr fun field _ => Keyed.get?_of_perm perm distinct field.1⟩

theorem parse_exact_foreignMember :
    (∀ field ∈ fields, ("dev_dependencies" : Coded) ≠ field.1) ∧
      parse (.object (Keyed.put "dev_dependencies" (.int 1)
        [("version", .null), ("name", .text "a"), ("scripts", .object [("b", .text "c")])])) =
      .ok ⟨some "a", none, none, none, some [("b", "c")]⟩ := by
  have other : ∀ field ∈ fields, ("dev_dependencies" : Coded) ≠ field.1 := by decide
  refine ⟨other, ?_⟩
  rw [(parse_exact.2.2.2.1 _ _ other).1, parse_exact.1]
  exact ⟨_, rfl, .text rfl, .nothing (Or.inr rfl), .nothing (Or.inl rfl), .nothing (Or.inl rfl),
    .texts rfl⟩

example :
    (parse (.object [("scripts", .int 1), ("version", .bool true)])) =
      .error (.notText "version") := by
  rfl

end ImportAtlas.Manifest
