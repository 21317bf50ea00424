import ImportAtlas.Path.Location
import ImportAtlas.Project.Walk

/-! # Names in paths

The names of directory entries hold no slash, so a path that is put together from names can
be taken apart again, and different rows of names give different paths.
-/

namespace ImportAtlas

/-- A name that an entry of a directory can have. -/
structure IsName (name : String) : Prop where
  nonempty : name ≠ ""
  not_here : name ≠ "."
  not_above : name ≠ ".."
  no_slash : '/' ∉ name.toList
  no_null : '\x00' ∉ name.toList

instance (name : String) : Decidable (IsName name) :=
  decidable_of_iff
    (name ≠ "" ∧ name ≠ "." ∧ name ≠ ".." ∧ '/' ∉ name.toList ∧ '\x00' ∉ name.toList)
    ⟨fun ⟨nonempty, notHere, notAbove, noSlash, noNull⟩ =>
        ⟨nonempty, notHere, notAbove, noSlash, noNull⟩,
      fun isName => ⟨isName.nonempty, isName.not_here, isName.not_above, isName.no_slash,
        isName.no_null⟩⟩

theorem IsName.concat {names : List String} {name : String}
    (named : ∀ part ∈ names, IsName part) (isName : IsName name) :
    ∀ part ∈ names ++ [name], IsName part :=
  List.forall_mem_append.mpr ⟨named, List.forall_mem_singleton.mpr isName⟩

/-! ## Characters of paths -/

namespace Text

theorem toList_joinText (separator : String) (parts : List String) :
    (joinText separator parts).toList = join separator.toList (parts.map String.toList) := by
  simp [joinText]

theorem mem_joinText {char : Char} {separator : String} (apart : char ∉ separator.toList)
    {parts : List String} :
    char ∈ (joinText separator parts).toList ↔ ∃ part ∈ parts, char ∈ part.toList := by
  rw [toList_joinText, mem_join apart]
  constructor
  · rintro ⟨chars, inParts, inChars⟩
    rcases List.mem_map.mp inParts with ⟨part, member, rfl⟩
    exact ⟨part, member, inChars⟩
  · rintro ⟨part, member, inPart⟩
    exact ⟨part.toList, List.mem_map_of_mem member, inPart⟩

theorem splitText_joinText {parts : List String} (nonempty : parts ≠ [])
    (noSlash : ∀ part ∈ parts, '/' ∉ part.toList) :
    splitText '/' (joinText "/" parts) = parts := by
  have someParts : parts.map String.toList ≠ [] := by simpa using nonempty
  have absent : ∀ part ∈ parts.map String.toList, '/' ∉ part := by
    intro part member
    rcases List.mem_map.mp member with ⟨name, inParts, rfl⟩
    exact noSlash name inParts
  have separator : "/".toList = ['/'] := rfl
  rw [splitText, toList_joinText, separator, split_join someParts absent, List.map_map]
  simp [Function.comp_def]

theorem mem_of_mem_splitText {separator char : Char} {text part : String}
    (member : part ∈ splitText separator text) (inPart : char ∈ part.toList) :
    char ∈ text.toList := by
  rcases List.mem_map.mp member with ⟨chars, inSplit, rfl⟩
  rw [String.toList_ofList] at inPart
  exact mem_of_mem_split inSplit inPart

end Text

/-! ## Components -/

namespace Path

theorem components_empty : components "" = [""] := rfl

theorem components_append (directory below : String) :
    components (directory ++ "/" ++ below) = components directory ++ components below := by
  have chars : (directory ++ "/" ++ below).toList =
      directory.toList ++ '/' :: below.toList := by simp
  rw [components, Text.splitText, chars, Text.split_append, List.map_append]
  rfl

theorem components_of_not_mem {path : String} (noSlash : '/' ∉ path.toList) :
    components path = [path] := by
  simp [components, Text.splitText, Text.split_of_not_mem noSlash]

theorem slash_not_mem_of_mem_components {path component : String}
    (member : component ∈ components path) : '/' ∉ component.toList := by
  rcases List.mem_map.mp member with ⟨chars, inSplit, rfl⟩
  rw [String.toList_ofList]
  exact Text.separator_not_mem_of_mem_split inSplit

end Path

/-! ## Locations -/

namespace Location

/-- Besides slashes and dots, a location is written with the characters of its anchor and its
parts. -/
theorem mem_text {char : Char} (notSlash : char ≠ '/') (notDot : char ≠ '.')
    {location : Location} :
    char ∈ location.text.toList ↔
      char ∈ location.anchor.toList ∨ ∃ part ∈ location.parts, char ∈ part.toList := by
  have apart : char ∉ "/".toList := by simpa using notSlash
  rw [← Text.mem_joinText apart, ← List.mem_append, ← String.toList_append]
  simp only [text]
  split
  · rename_i isEmpty
    have nothing : location.anchor ++ Text.joinText "/" location.parts = "" := by
      simpa using isEmpty
    rw [nothing]
    simp [notDot]
  · rfl

private theorem mem_text_append {char : Char} (notSlash : char ≠ '/') (notDot : char ≠ '.')
    {base next : Location} (member : char ∈ (base.append next).text.toList) :
    char ∈ base.text.toList ∨ char ∈ next.text.toList := by
  rw [mem_text notSlash notDot, mem_text notSlash notDot]
  unfold append at member
  split at member
  · exact Or.inr ((mem_text notSlash notDot).mp member)
  · rcases (mem_text notSlash notDot).mp member with inAnchor | ⟨part, inParts, inPart⟩
    · exact Or.inl (Or.inl inAnchor)
    · rcases List.mem_append.mp inParts with inBase | inNext
      · exact Or.inl (Or.inr ⟨part, inBase, inPart⟩)
      · exact Or.inr (Or.inr ⟨part, inNext, inPart⟩)

theorem mem_of_mem_text_ofText {char : Char} (notSlash : char ≠ '/') (notDot : char ≠ '.')
    {text : String} (member : char ∈ (ofText text).text.toList) : char ∈ text.toList := by
  rcases (mem_text notSlash notDot).mp member with inAnchor | ⟨part, inParts, inPart⟩
  · -- An anchor is made of slashes alone.
    exfalso
    revert inAnchor
    simp only [ofText, Path.anchor]
    split <;> simp [notSlash]
  · exact Text.mem_of_mem_splitText (List.mem_filter.mp inParts).1 inPart

/-- No character comes into the text of a location that is not in its base or its own text. -/
theorem mem_of_mem_text_child {char : Char} (notSlash : char ≠ '/') (notDot : char ≠ '.')
    {base : Location} {text : String} (member : char ∈ (base.child text).text.toList) :
    char ∈ base.text.toList ∨ char ∈ text.toList :=
  (mem_text_append notSlash notDot member).imp_right (mem_of_mem_text_ofText notSlash notDot)

end Location

/-! ## Paths of project files -/

namespace Scan

theorem components_pathText {names : List String} (nonempty : names ≠ [])
    (named : ∀ name ∈ names, IsName name) : Path.components (pathText names) = names :=
  Text.splitText_joinText nonempty fun name member => (named name member).no_slash

theorem pathText_components (path : String) : pathText (Path.components path) = path := by
  apply String.toList_inj.mp
  rw [pathText, Text.toList_joinText, Path.components, Text.splitText, List.map_map]
  have listed : String.toList ∘ String.ofList = id := funext fun _ => String.toList_ofList
  rw [listed, List.map_id]
  exact Text.join_split '/' path.toList

theorem pathText_injective {left right : List String} (leftNonempty : left ≠ [])
    (rightNonempty : right ≠ []) (leftNamed : ∀ name ∈ left, IsName name)
    (rightNamed : ∀ name ∈ right, IsName name) (equal : pathText left = pathText right) :
    left = right := by
  rw [← components_pathText leftNonempty leftNamed, equal,
    components_pathText rightNonempty rightNamed]

@[simp] theorem pathText_singleton (name : String) : pathText [name] = name := by
  simp [pathText, Text.joinText, Text.join]

theorem toList_pathText_ne_nil {names : List String} (nonempty : names ≠ [])
    (named : ∀ name ∈ names, IsName name) : (pathText names).toList ≠ [] := by
  intro isEmpty
  have nothing : pathText names = "" := String.toList_inj.mp isEmpty
  have single : names = [""] := by
    rw [← components_pathText nonempty named, nothing]
    rfl
  exact (named "" (by simp [single])).nonempty rfl

theorem toList_pathText_append {above below : List String} (aboveSome : above ≠ [])
    (belowSome : below ≠ []) :
    (pathText (above ++ below)).toList =
      (pathText above).toList ++ '/' :: (pathText below).toList := by
  have separator : "/".toList = ['/'] := rfl
  simp only [pathText, Text.toList_joinText, List.map_append, separator]
  rw [Text.join_append ['/'] (by simpa using aboveSome) (by simpa using belowSome)]
  simp

theorem pathText_concat_append (above : List String) (name suffix : String) :
    pathText (above ++ [name ++ suffix]) = pathText (above ++ [name]) ++ suffix := by
  by_cases nothing : above = []
  · simp [nothing]
  · apply String.toList_inj.mp
    rw [toList_pathText_append nothing (by simp), String.toList_append,
      toList_pathText_append nothing (by simp)]
    simp

theorem exists_of_toList_pathText_eq {names : List String} (nonempty : names ≠ [])
    (named : ∀ name ∈ names, IsName name) {front back : List Char}
    (equal : (pathText names).toList = front ++ '/' :: back) :
    ∃ above below, names = above ++ below ∧ above ≠ [] ∧ below ≠ [] ∧
      (pathText above).toList = front := by
  refine ⟨(Text.split '/' front).map String.ofList, (Text.split '/' back).map String.ofList,
    ?_, by simp [Text.split], by simp [Text.split], ?_⟩
  · rw [← List.map_append, ← Text.split_append, ← equal]
    exact (components_pathText nonempty named).symm
  · have separator : "/".toList = ['/'] := rfl
    rw [pathText, Text.toList_joinText, List.map_map, separator]
    simpa [Function.comp_def] using Text.join_split '/' front

theorem null_not_mem_pathText {names : List String} (named : ∀ name ∈ names, IsName name) :
    '\x00' ∉ (pathText names).toList := by
  rw [pathText, Text.mem_joinText (by decide)]
  rintro ⟨name, member, inName⟩
  exact (named name member).no_null inName

theorem head?_pathText_cons {first : String} (nonempty : first ≠ "")
    (noSlash : '/' ∉ first.toList) (rest : List String) :
    (pathText (first :: rest)).toList.head? ≠ some '/' := by
  have someChar : first.toList ≠ [] := by simpa using nonempty
  rcases List.exists_cons_of_ne_nil someChar with ⟨head, tail, chars⟩
  have notSlash : head ≠ '/' := by
    intro equal
    exact noSlash (chars ▸ equal ▸ List.mem_cons_self)
  rw [pathText, Text.toList_joinText, List.map_cons, chars]
  cases rest with
  | nil => simpa [Text.join] using notSlash
  | cons next names => simpa [Text.join] using notSlash

theorem head?_pathText {names : List String} (nonempty : names ≠ [])
    (named : ∀ name ∈ names, IsName name) : (pathText names).toList.head? ≠ some '/' := by
  rcases List.exists_cons_of_ne_nil nonempty with ⟨first, rest, rfl⟩
  have firstNamed := named first List.mem_cons_self
  exact head?_pathText_cons firstNamed.nonempty firstNamed.no_slash rest

theorem ofText_pathText {names : List String} (nonempty : names ≠ [])
    (named : ∀ name ∈ names, IsName name) : Location.ofText (pathText names) = ⟨"", names⟩ := by
  have noAnchor : Path.anchor (pathText names) = "" := by
    have noSlash := head?_pathText nonempty named
    unfold Path.anchor
    split <;> simp_all
  have allKept : (Path.components (pathText names)).filter
      (fun part => part ≠ "" ∧ part ≠ ".") = names := by
    rw [components_pathText nonempty named, List.filter_eq_self]
    intro name member
    simp [(named name member).nonempty, (named name member).not_here]
  rw [Location.ofText, noAnchor, allKept]

end Scan

end ImportAtlas
