import ImportAtlas.Config.Basic
import Mathlib.Data.Option.Basic

/-! # Entries of a configuration

A parameter has a kind of data that it accepts, whatever the configuration holds, and it holds such
a datum as it was given. Main statement: an entry is entered exactly if it gives a parameter a datum
that it accepts, and otherwise it is refused for an unknown name or for its datum.
-/

namespace ImportAtlas.Config

open Text (Coded)

/-! ## What parameters accept -/

def Parameter.Accepts (parameter : Parameter) (value : Datum) : Prop :=
  match parameter with
  | .ignorePatterns | .ignoreFiles =>
      ∃ texts : List Coded, value = .list (texts.map .text) ∧ ∀ text ∈ texts, text ≠ []
  | .manifestFilename => ∃ text, value = .text text ∧ text.isBlank = false
  | .readManifest => ∃ truth, value = .bool truth
  | .maxFileSizeKb => value = .null ∨ ∃ size : Nat, value = .int size ∧ 0 < size

private theorem nonemptyText?_eq_some_iff {datum : Datum} {text : Coded} :
    nonemptyText? datum = some text ↔ datum = .text text ∧ text ≠ [] := by
  cases datum <;> simp [nonemptyText?, Datum.text?, Option.filter_eq_some_iff]

private theorem mapM_nonemptyText?_eq_some_iff {items : List Datum} {texts : List Coded} :
    items.mapM nonemptyText? = some texts ↔
      items = texts.map .text ∧ ∀ text ∈ texts, text ≠ [] := by
  induction items generalizing texts with
  | nil => cases texts <;> simp
  | cons item rest induction =>
      simp only [List.mapM_cons, Option.bind_eq_bind, Option.bind_eq_some_iff, Option.pure_def,
        Option.some.injEq, nonemptyText?_eq_some_iff, induction]
      cases texts with
      | nil => simp
      | cons text others =>
          simp only [List.map_cons, List.cons.injEq, List.forall_mem_cons]
          constructor
          · rintro ⟨_, ⟨isText, nonempty⟩, _, ⟨areTexts, allNonempty⟩, rfl, rfl⟩
            exact ⟨⟨isText, areTexts⟩, nonempty, allNonempty⟩
          · rintro ⟨⟨isText, areTexts⟩, nonempty, allNonempty⟩
            exact ⟨text, ⟨isText, nonempty⟩, others, ⟨areTexts, allNonempty⟩, rfl, rfl⟩

theorem texts?_eq_some_iff {value : Datum} {texts : List Coded} :
    texts? value = some texts ↔
      value = .list (texts.map .text) ∧ ∀ text ∈ texts, text ≠ [] := by
  cases value <;> simp [texts?, mapM_nonemptyText?_eq_some_iff]

theorem filename?_eq_some_iff {value : Datum} {filename : Coded} :
    filename? value = some filename ↔ value = .text filename ∧ filename.isBlank = false := by
  cases value <;> simp [filename?, Datum.text?, Option.filter_eq_some_iff]

theorem truth?_eq_some_iff {value : Datum} {truth : Bool} :
    truth? value = some truth ↔ value = .bool truth := by
  cases value <;> simp [truth?]

def sizeDatum (size : Option Nat) : Datum :=
  (size.map fun number => Datum.int number).getD .null

theorem size?_eq_some_iff {value : Datum} {size : Option Nat} :
    size? value = some size ↔ value = sizeDatum size ∧ ∀ number ∈ size, 0 < number := by
  cases value with
  | int whole =>
      cases size <;> simp [size?, sizeDatum]
      grind
  | _ => cases size <;> simp [size?, sizeDatum]

theorem exists_set?_iff {config : Config} {parameter : Parameter} {value : Datum} :
    (∃ changed, config.set? parameter value = some changed) ↔ parameter.Accepts value := by
  cases parameter with
  | maxFileSizeKb =>
      simp only [set?, Option.map_eq_some_iff, size?_eq_some_iff, Parameter.Accepts]
      rw [exists_comm]
      simp [Option.exists, sizeDatum]
  | _ =>
      simp only [set?, Option.map_eq_some_iff, texts?_eq_some_iff, filename?_eq_some_iff,
        truth?_eq_some_iff, Parameter.Accepts]
      rw [exists_comm]
      simp

theorem set?_eq_none_iff {config : Config} {parameter : Parameter} {value : Datum} :
    config.set? parameter value = none ↔ ¬parameter.Accepts value := by
  rw [← @exists_set?_iff config, ← Option.ne_none_iff_exists', not_not]

theorem get_of_set? {config changed : Config} {parameter : Parameter} {value : Datum}
    (given : config.set? parameter value = some changed) : changed.get parameter = value := by
  cases parameter <;> simp only [set?, Option.map_eq_some_iff] at given <;>
    rcases given with ⟨fitting, found, rfl⟩
  case ignorePatterns | ignoreFiles => exact (texts?_eq_some_iff.mp found).1.symm
  case manifestFilename => exact (filename?_eq_some_iff.mp found).1.symm
  case readManifest => exact (truth?_eq_some_iff.mp found).symm
  case maxFileSizeKb => exact (size?_eq_some_iff.mp found).1.symm

theorem get_of_set?_of_ne {config changed : Config} {parameter other : Parameter} {value : Datum}
    (given : config.set? parameter value = some changed) (different : other ≠ parameter) :
    changed.get other = config.get other := by
  cases parameter <;> simp only [set?, Option.map_eq_some_iff] at given <;>
    rcases given with ⟨fitting, found, rfl⟩ <;> cases other <;> simp_all [get]

/-! ## Entries -/

theorem parameterOf?_eq_some_iff {key : Datum} {parameter : Parameter} :
    parameterOf? key = some parameter ↔ key = .text parameter.name := by
  cases key with
  | text name =>
      simp only [parameterOf?, Parameter.ofName?, Datum.text.injEq]
      constructor
      · intro found
        have named := List.find?_some found
        exact (of_decide_eq_true named).symm
      · rintro rfl
        cases parameter <;> decide
  | _ => simp [parameterOf?]

private theorem parameterOf?_eq_none_iff {key : Datum} :
    parameterOf? key = none ↔ ∀ parameter : Parameter, key ≠ .text parameter.name := by
  simp [Option.eq_none_iff_forall_ne_some, parameterOf?_eq_some_iff]

@[simp] theorem parameterOf?_name (parameter : Parameter) :
    parameterOf? (.text parameter.name) = some parameter :=
  parameterOf?_eq_some_iff.mpr rfl

/-- Whether an entry gives a parameter a datum that it accepts. -/
def IsFitting (entry : Datum × Datum) : Prop :=
  ∃ parameter : Parameter, entry.1 = .text parameter.name ∧ parameter.Accepts entry.2

/-- What is wrong with an entry that does not fit. -/
inductive IsRefused (room : Nat) : Datum × Datum → Fault → Prop
  | unknown {key value : Datum} (unnamed : ∀ parameter : Parameter, key ≠ .text parameter.name) :
      IsRefused room (key, value) ((Fault.unknown key).about room key)
  | invalid {parameter : Parameter} {value : Datum} (unfit : ¬parameter.Accepts value) :
      IsRefused room (.text parameter.name, value)
        ((Fault.invalid parameter value).about room value)

variable {room : Nat} {config changed : Config} {entry : Datum × Datum} {fault : Fault}

theorem enter_eq_ok_iff :
    enter room config entry = .ok changed ↔ ∃ parameter : Parameter,
      entry.1 = .text parameter.name ∧ config.set? parameter entry.2 = some changed := by
  simp only [← parameterOf?_eq_some_iff]
  unfold enter
  cases parameterOf? entry.1 with
  | none => simp
  | some parameter => cases set : config.set? parameter entry.2 <;> simp [set]

theorem exists_enter_iff :
    (∃ changed, enter room config entry = .ok changed) ↔ IsFitting entry := by
  simp only [enter_eq_ok_iff, IsFitting, ← @exists_set?_iff config]
  rw [exists_comm]
  simp

theorem enter_eq_error_iff :
    enter room config entry = .error fault ↔ IsRefused room entry fault := by
  rcases entry with ⟨key, value⟩
  constructor
  · intro refused
    unfold enter at refused
    split at refused
    · rename_i unnamed
      rw [Except.error.injEq] at refused
      exact refused ▸ .unknown (parameterOf?_eq_none_iff.mp unnamed)
    · rename_i parameter named
      obtain rfl : key = .text parameter.name := parameterOf?_eq_some_iff.mp named
      split at refused
      · rename_i unset
        rw [Except.error.injEq] at refused
        exact refused ▸ .invalid (set?_eq_none_iff.mp unset)
      · cases refused
  · intro refused
    cases refused with
    | unknown unnamed => simp [enter, parameterOf?_eq_none_iff.mpr unnamed]
    | @invalid parameter value unfit =>
        have unset : config.set? parameter value = none := set?_eq_none_iff.mpr unfit
        simp [enter, unset]

end ImportAtlas.Config
