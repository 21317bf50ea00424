import ImportAtlas.Proofs.Path.Lexical
import Mathlib.Data.List.Induction

/-! # Positions

A relative path leads some levels up, and from there down some names. Main statements: the
canonical form of a relative path is the text of the position to which its components lead, and
this text leads there again.
-/

namespace ImportAtlas.Path

open Scan (pathText)

/-- A component that names a member of a directory. -/
structure IsOrdinary (component : String) : Prop where
  nonempty : component ≠ ""
  not_here : component ≠ "."
  not_above : component ≠ ".."

instance (component : String) : Decidable (IsOrdinary component) :=
  decidable_of_iff (component ≠ "" ∧ component ≠ "." ∧ component ≠ "..")
    ⟨fun ⟨nonempty, notHere, notAbove⟩ => ⟨nonempty, notHere, notAbove⟩,
      fun isOrdinary => ⟨isOrdinary.nonempty, isOrdinary.not_here, isOrdinary.not_above⟩⟩

theorem IsOrdinary.of_length {component : String} (long : 2 < component.toList.length) :
    IsOrdinary component := by
  constructor <;> rintro rfl <;> simp at long

theorem IsOrdinary.append_dot {name : String} (isOrdinary : IsOrdinary name) (suffix : String) :
    IsOrdinary (name ++ "." ++ suffix) := by
  have someChar : name.toList ≠ [] := by simpa using isOrdinary.nonempty
  rcases List.exists_cons_of_ne_nil someChar with ⟨head, tail, chars⟩
  constructor <;> intro equal <;> have written := congrArg String.toList equal
  · simp at written
  · simp [chars] at written
  · cases tail with
    | nil =>
        simp [chars] at written
        exact isOrdinary.not_here (String.toList_inj.mp (by simp [chars, written.1]))
    | cons next rest => simp [chars] at written

/-- Where a relative path leads: some levels up, and from there down some names. -/
structure Position where
  above : Nat
  names : List String
  ordinary : ∀ name ∈ names, IsOrdinary name

namespace Position

def here : Position := ⟨0, [], nofun⟩

/-- One level up: out of the last name, or one level higher if there is none. -/
def up (position : Position) : Position where
  above := if position.names = [] then position.above + 1 else position.above
  names := position.names.dropLast
  ordinary name member := position.ordinary name (List.dropLast_sublist _ |>.mem member)

def enter (position : Position) (name : String) (isOrdinary : IsOrdinary name) : Position where
  above := position.above
  names := position.names ++ [name]
  ordinary := List.forall_mem_append.mpr
    ⟨position.ordinary, List.forall_mem_singleton.mpr isOrdinary⟩

def step (position : Position) (component : String) : Position :=
  if isOrdinary : IsOrdinary component then position.enter component isOrdinary
  else if component = ".." then position.up
  else position

def walk (position : Position) (components : List String) : Position :=
  components.foldl step position

def components (position : Position) : List String :=
  List.replicate position.above ".." ++ position.names

/-- The shortest way to write a position; that of where one stands is a dot. -/
def text (position : Position) : String :=
  if position.components = [] then "." else pathText position.components

@[simp] theorem step_empty (position : Position) : position.step "" = position := by
  simp [step, show ¬IsOrdinary "" by decide]

@[simp] theorem step_here (position : Position) : position.step "." = position := by
  simp [step, show ¬IsOrdinary "." by decide]

@[simp] theorem step_above (position : Position) : position.step ".." = position.up := by
  simp [step, show ¬IsOrdinary ".." by decide]

theorem step_of_isOrdinary (position : Position) {name : String} (isOrdinary : IsOrdinary name) :
    position.step name = position.enter name isOrdinary := by
  rw [step, dif_pos isOrdinary]

@[simp] theorem walk_nil (position : Position) : position.walk [] = position := rfl

@[simp] theorem walk_cons (position : Position) (first : String) (rest : List String) :
    position.walk (first :: rest) = (position.step first).walk rest := rfl

@[simp] theorem walk_append (position : Position) (front back : List String) :
    position.walk (front ++ back) = (position.walk front).walk back :=
  List.foldl_append

/-! ## Components of a position -/

@[simp] theorem components_here : here.components = [] := rfl

@[simp] theorem components_enter (position : Position) {name : String}
    (isOrdinary : IsOrdinary name) :
    (position.enter name isOrdinary).components = position.components ++ [name] := by
  simp [components, enter]

theorem walk_names (position : Position) {names : List String}
    (ordinary : ∀ name ∈ names, IsOrdinary name) :
    position.walk names =
      ⟨position.above, position.names ++ names, List.forall_mem_append.mpr
        ⟨position.ordinary, ordinary⟩⟩ := by
  induction names generalizing position with
  | nil => simp
  | cons first rest induction =>
      rcases List.forall_mem_cons.mp ordinary with ⟨firstOrdinary, restOrdinary⟩
      rw [walk_cons, step_of_isOrdinary position firstOrdinary, induction _ restOrdinary]
      simp [enter]

private theorem walk_above (count : Nat) :
    here.walk (List.replicate count "..") = ⟨count, [], nofun⟩ := by
  induction count with
  | zero => rfl
  | succ count induction =>
      rw [List.replicate_succ', walk_append, induction]
      simp [up]

@[simp] theorem up_enter (position : Position) {name : String} (isOrdinary : IsOrdinary name) :
    (position.enter name isOrdinary).up = position := by
  simp [up, enter]

theorem walk_back (position : Position) {names : List String}
    (ordinary : ∀ name ∈ names, IsOrdinary name) :
    (position.walk names).walk (List.replicate names.length "..") = position := by
  induction names using List.reverseRecOn with
  | nil => simp
  | append_singleton names name induction =>
      rcases List.forall_mem_append.mp ordinary with ⟨front, last⟩
      rw [walk_append, walk_cons, walk_nil,
        step_of_isOrdinary _ (last name List.mem_cons_self), List.length_append,
        List.length_singleton, List.replicate_succ, walk_cons, step_above, up_enter,
        induction front]

theorem walk_components (position : Position) : here.walk position.components = position := by
  rw [components, walk_append, walk_above, walk_names _ position.ordinary]
  simp

theorem components_injective {left right : Position} (equal : left.components = right.components) :
    left = right := by
  rw [← left.walk_components, equal, right.walk_components]

/-! ## Evaluation -/

def stack (position : Position) : List String :=
  position.names.reverse ++ List.replicate position.above ".."

private theorem climb_stack (position : Position) (component : String) :
    climb false position.stack component = (position.step component).stack := by
  by_cases isOrdinary : IsOrdinary component
  · simp [step_of_isOrdinary position isOrdinary, stack, enter, climb, isOrdinary.nonempty,
      isOrdinary.not_here, isOrdinary.not_above]
  · by_cases isAbove : component = ".."
    · subst isAbove
      rcases position with ⟨above, names, ordinary⟩
      rcases List.eq_nil_or_concat names with rfl | ⟨front, last, rfl⟩
      · cases above <;> simp [stack, climb, up, List.replicate_succ]
      · have lastOrdinary := ordinary last (by simp)
        simp [stack, climb, up, lastOrdinary.not_above]
    · have stays : component = "" ∨ component = "." := by
        by_contra neither
        rw [not_or] at neither
        exact isOrdinary ⟨neither.1, neither.2, isAbove⟩
      rcases stays with rfl | rfl <;> simp [climb]

/-- Evaluating the components of a relative path gives those of the position where they lead. -/
theorem collapse_eq (parts : List String) :
    collapse false parts = (here.walk parts).components := by
  have folded : ∀ position : Position,
      parts.foldl (climb false) position.stack = (position.walk parts).stack := by
    induction parts with
    | nil => exact fun _ => rfl
    | cons first rest induction =>
        intro position
        rw [List.foldl_cons, climb_stack, induction, walk_cons]
  have fromHere := folded here
  rw [show here.stack = [] from rfl] at fromHere
  rw [collapse, fromHere, stack, components]
  simp

/-! ## Texts of positions -/

theorem pathText_cons_ne_empty {first : String} (nonempty : first ≠ "") (rest : List String) :
    pathText (first :: rest) ≠ "" := by
  have someChar : first.toList ≠ [] := by simpa using nonempty
  intro isEmpty
  have chars := congrArg String.toList isEmpty
  rw [pathText, Text.toList_joinText, List.map_cons] at chars
  cases rest with
  | nil => exact someChar (by simpa [Text.join] using chars)
  | cons next others => simp [Text.join] at chars

theorem nonempty_of_mem_components {position : Position} {component : String}
    (member : component ∈ position.components) : component ≠ "" := by
  rcases List.mem_append.mp member with above | inNames
  · rw [List.eq_of_mem_replicate above]
    decide
  · exact (position.ordinary component inNames).nonempty

theorem canonical_eq {path : String} (relative : path.toList.head? ≠ some '/') :
    canonical path = (here.walk (Path.components path)).text := by
  have noAnchor : (!"".isEmpty) = false := by decide
  simp only [canonical, anchor_eq_empty relative, noAnchor, collapse_eq, String.empty_append]
  rw [text, pathText]
  cases parts : (here.walk (Path.components path)).components with
  | nil => rfl
  | cons first rest =>
      have firstSome : first ≠ "" :=
        nonempty_of_mem_components (parts ▸ List.mem_cons_self)
      have someText := pathText_cons_ne_empty firstSome rest
      rw [pathText] at someText
      simp [someText]

/-- A position whose names can be read off its text. -/
def IsPlain (position : Position) : Prop :=
  ∀ name ∈ position.names, '/' ∉ name.toList ∧ '\\' ∉ name.toList

section Plain

variable {position : Position} (plain : position.IsPlain)
include plain

theorem IsPlain.of_mem_components {component : String} (member : component ∈ position.components) :
    '/' ∉ component.toList ∧ '\\' ∉ component.toList := by
  rcases List.mem_append.mp member with above | inNames
  · rw [List.eq_of_mem_replicate above]
    decide
  · exact plain component inNames

theorem components_text : Path.components position.text =
    if position.components = [] then ["."] else position.components := by
  rw [text]
  split
  · decide
  · rename_i someComponents
    exact Text.splitText_joinText someComponents fun component member =>
      (plain.of_mem_components member).1

theorem head?_components_text :
    (Path.components position.text).head? = some ".." ↔ 0 < position.above := by
  rw [components_text plain, components]
  cases position.above with
  | zero =>
      cases names : position.names with
      | nil => decide
      | cons first rest =>
          have firstOrdinary := position.ordinary first (names ▸ List.mem_cons_self)
          simp [firstOrdinary.not_above]
  | succ count => simp [List.replicate_succ]

theorem walk_components_text : here.walk (Path.components position.text) = position := by
  rw [components_text plain]
  split
  · rename_i nothing
    exact components_injective (by simpa using nothing.symm)
  · exact position.walk_components

theorem head?_text : position.text.toList.head? ≠ some '/' := by
  rw [text]
  split
  · decide
  · rename_i someComponents
    rcases List.exists_cons_of_ne_nil someComponents with ⟨first, rest, parts⟩
    have isFirst : first ∈ position.components := parts ▸ List.mem_cons_self
    rw [parts]
    exact Scan.head?_pathText_cons (nonempty_of_mem_components isFirst)
      (plain.of_mem_components isFirst).1 rest

theorem slashed_text : slashed position.text = position.text := by
  rw [text]
  split
  · decide
  · exact slashed_pathText fun component member => (plain.of_mem_components member).2

theorem normalize_text : normalize position.text = position.text := by
  rw [normalize, slashed_text plain, canonical_eq (head?_text plain), walk_components_text plain]

end Plain

theorem text_injective {left right : Position} (leftPlain : left.IsPlain)
    (rightPlain : right.IsPlain) (equal : left.text = right.text) : left = right := by
  rw [← walk_components_text leftPlain, equal, walk_components_text rightPlain]

/-! ## Ways -/

private theorem mem_of_mem_names_walk {parts : List String} {name : String}
    (member : name ∈ (here.walk parts).names) : name ∈ parts := by
  have inComponents : name ∈ (here.walk parts).components := List.mem_append_right _ member
  rw [← collapse_eq] at inComponents
  exact mem_of_mem_collapse inComponents

theorem isPlain_walk {parts : List String}
    (plain : ∀ part ∈ parts, '/' ∉ part.toList ∧ '\\' ∉ part.toList) :
    (here.walk parts).IsPlain :=
  fun name member => plain name (mem_of_mem_names_walk member)

theorem walk_components_append (position : Position) (directory below : String) :
    position.walk (Path.components (directory ++ "/" ++ below)) =
      (position.walk (Path.components directory)).walk (Path.components below) := by
  rw [components_append, walk_append]

theorem walk_components_detour {middle : String}
    (leadsBack : ∀ position : Position, position.walk (Path.components middle) = position)
    (position : Position) (front back : String) :
    position.walk (Path.components (front ++ "/" ++ middle ++ "/" ++ back)) =
      position.walk (Path.components (front ++ "/" ++ back)) := by
  rw [walk_components_append, walk_components_append, leadsBack, walk_components_append]

theorem walk_components_slash (position : Position) (path : String) :
    position.walk (Path.components (path ++ "/")) = position.walk (Path.components path) := by
  have written : path ++ "/" = path ++ "/" ++ "" := by simp
  rw [written, walk_components_append, components_empty]
  simp

theorem walk_components_join (position : Position) (directory : String) {path : String}
    (relative : path.toList.head? ≠ some '/') :
    position.walk (Path.components (join directory path)) =
      (position.walk (Path.components directory)).walk (Path.components path) := by
  rw [join, if_neg relative]
  split
  · rename_i closed
    rcases closed with isEmpty | endsOpen
    · have nothing : directory = "" := by simpa using isEmpty
      rw [nothing, String.empty_append, components_empty]
      simp
    · rcases List.getLast?_eq_some_iff.mp endsOpen with ⟨front, chars⟩
      have written : directory = String.ofList front ++ "/" :=
        String.toList_inj.mp (by simp [chars])
      rw [written, walk_components_append, walk_components_slash]
  · exact walk_components_append position directory path

private theorem walk_components_slashes (position : Position) (path : String) (count : Nat) :
    position.walk (Path.components (path ++ String.ofList (List.replicate count '/'))) =
      position.walk (Path.components path) := by
  induction count with
  | zero => simp
  | succ count induction =>
      have written : path ++ String.ofList (List.replicate (count + 1) '/') =
          path ++ String.ofList (List.replicate count '/') ++ "/" :=
        String.toList_inj.mp (by simp [List.replicate_succ'])
      rw [written, walk_components_slash, induction]

private theorem exists_stripTrailingSlashes (chars : List Char) :
    ∃ count, chars = stripTrailingSlashes chars ++ List.replicate count '/' := by
  unfold stripTrailingSlashes
  split
  · exact ⟨0, by simp⟩
  · refine ⟨(chars.reverse.takeWhile (· = '/')).length, ?_⟩
    have slashes : (chars.reverse.takeWhile (· = '/')).reverse =
        List.replicate (chars.reverse.takeWhile (· = '/')).length '/' := by
      rw [List.eq_replicate_iff]
      refine ⟨List.length_reverse, fun char member => ?_⟩
      simpa using List.mem_takeWhile_imp (List.mem_reverse.mp member)
    rw [← slashes, ← List.reverse_append, List.takeWhile_append_dropWhile, List.reverse_reverse]

private theorem exists_lastSlash {path : String} (hasSlash : '/' ∈ path.toList) :
    ∃ front back : String, path = front ++ "/" ++ back ∧ '/' ∉ back.toList := by
  have inReverse : '/' ∈ path.toList.reverse := List.mem_reverse.mpr hasSlash
  rcases List.eq_append_cons_of_mem inReverse with ⟨back, front, chars, absent⟩
  refine ⟨String.ofList front.reverse, String.ofList back.reverse, ?_, by simpa using absent⟩
  apply String.toList_inj.mp
  rw [← List.reverse_reverse path.toList, chars]
  simp

theorem walk_components_directoryName (position : Position) (path : String) :
    position.walk (Path.components (directoryName path)) =
      position.walk (Path.components path).dropLast := by
  rcases exists_stripTrailingSlashes (throughLastSlash path.toList) with ⟨count, stripped⟩
  have through : position.walk (Path.components (directoryName path)) =
      position.walk (Path.components (String.ofList (throughLastSlash path.toList))) := by
    rw [← walk_components_slashes position (directoryName path) count, directoryName]
    congr 2
    exact String.toList_inj.mp (by simpa using stripped.symm)
  rw [through]
  by_cases hasSlash : '/' ∈ path.toList
  · rcases exists_lastSlash hasSlash with ⟨front, back, rfl, absent⟩
    have cut : throughLastSlash (front ++ "/" ++ back).toList = (front ++ "/").toList := by
      simpa using @throughLastSlash_append front.toList _ absent
    rw [cut, String.ofList_toList, walk_components_slash, components_append,
      components_of_not_mem absent, List.dropLast_concat]
  · have nothing : throughLastSlash path.toList = [] := by
      rw [throughLastSlash, List.reverse_eq_nil_iff, List.dropWhile_eq_nil_iff]
      intro char member
      have inPath : char ∈ path.toList := by simpa using member
      simpa using fun equal : char = '/' => hasSlash (equal ▸ inPath)
    rw [nothing, components_of_not_mem hasSlash, String.ofList_nil, components_empty]
    simp

end Position

end ImportAtlas.Path
