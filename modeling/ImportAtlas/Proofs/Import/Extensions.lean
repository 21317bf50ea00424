import ImportAtlas.Import.Scan
import ImportAtlas.Project.Record
import ImportAtlas.Proofs.Import.Candidates
import Mathlib.Data.List.DropRight

/-! # Extensions

The extension of a path is what its last name has behind the last dot. Main statement: a path has an
extension exactly if its last name can be cut in this way, and every candidate of a target but the
first has the extension of a file that is scanned.
-/

namespace ImportAtlas

namespace Path

def isSeparator (char : Char) : Bool := char == '/' || char == '\\'

def lastName (path : String) : String :=
  String.ofList (path.toList.rtakeWhile (!isSeparator ·))

/-- What a name has behind its last dot, unless nothing stands before the dot. -/
structure HasExtension (name extension : String) : Prop where
  not_above : name ≠ ".."
  no_dot : '.' ∉ extension.toList
  cut : ∃ stem, stem ≠ "" ∧ name = stem ++ "." ++ extension

/-! ## Last names -/

private theorem baseName_append (directory : String) {name : String} (noSlash : '/' ∉ name.toList) :
    baseName (directory ++ "/" ++ name) = name := by
  rw [baseName, components_append, components_of_not_mem noSlash, List.getLastD_concat]

private theorem baseName_of_not_mem {name : String} (noSlash : '/' ∉ name.toList) :
    baseName name = name := by
  rw [baseName, components_of_not_mem noSlash]
  rfl

private theorem separator_not_mem_lastName (path : String) :
    '/' ∉ (lastName path).toList ∧ '\\' ∉ (lastName path).toList := by
  rw [lastName, String.toList_ofList]
  exact ⟨fun member => absurd (List.mem_rtakeWhile_imp member) (by decide),
    fun member => absurd (List.mem_rtakeWhile_imp member) (by decide)⟩

private theorem lastName_cases (path : String) : lastName path = path ∨ ∃ front separator,
    isSeparator separator = true ∧
      path = String.ofList front ++ String.ofList [separator] ++ lastName path := by
  have whole := @List.rdropWhile_append_rtakeWhile _ (!isSeparator ·) path.toList
  rcases List.eq_nil_or_concat (path.toList.rdropWhile (!isSeparator ·)) with
    nothing | ⟨front, separator, written⟩
  · left
    rw [nothing, List.nil_append] at whole
    rw [lastName, whole, String.ofList_toList]
  · right
    have someFront : path.toList.rdropWhile (!isSeparator ·) ≠ [] := by simp [written]
    have refused := List.rdropWhile_last_not _ _ someFront
    simp only [written, List.concat_eq_append, List.getLast_append_singleton] at refused
    refine ⟨front, separator, by simpa using refused, String.toList_inj.mp ?_⟩
    rw [written] at whole
    simpa [lastName] using whole.symm

theorem baseName_slashed (path : String) : baseName (slashed path) = lastName path := by
  rcases separator_not_mem_lastName path with ⟨noSlash, noBackslash⟩
  rcases lastName_cases path with alone | ⟨front, separator, separates, written⟩
  · rw [alone] at noSlash noBackslash ⊢
    rw [slashed_eq_self noBackslash, baseName_of_not_mem noSlash]
  · have slash : slashed (String.ofList [separator]) = "/" := by
      rw [isSeparator, Bool.or_eq_true, beq_iff_eq, beq_iff_eq] at separates
      rcases separates with rfl | rfl <;> decide
    rw [congrArg slashed written, slashed_append, slashed_append, slash,
      slashed_eq_self noBackslash, baseName_append _ noSlash]

/-! ## Last dots -/

private theorem splitLastDot?_append (stem : List Char) {suffix : List Char}
    (absent : '.' ∉ suffix) :
    splitLastDot? (stem ++ '.' :: suffix) = some (stem, suffix) := by
  have allOther : ∀ char ∈ suffix.reverse, decide (char ≠ '.') = true := by
    intro char member
    simpa using fun isDot : char = '.' => absent (isDot ▸ List.mem_reverse.mp member)
  have reversed : (stem ++ '.' :: suffix).reverse = suffix.reverse ++ '.' :: stem.reverse := by
    simp
  simp only [splitLastDot?, reversed, List.dropWhile_append_of_pos allOther,
    List.takeWhile_append_of_pos allOther]
  simp

private theorem splitLastDot?_of_not_mem {name : List Char} (absent : '.' ∉ name) :
    splitLastDot? name = none := by
  have nothing : name.reverse.dropWhile (fun char => decide (char ≠ '.')) = [] := by
    rw [List.dropWhile_eq_nil_iff]
    intro char member
    simpa using fun isDot : char = '.' => absent (isDot ▸ List.mem_reverse.mp member)
  simp only [splitLastDot?, nothing]

private theorem splitLastDot?_eq_some_iff {name stem suffix : List Char} :
    splitLastDot? name = some (stem, suffix) ↔ name = stem ++ '.' :: suffix ∧ '.' ∉ suffix := by
  constructor
  · intro cut
    by_cases hasDot : '.' ∈ name
    · rcases List.eq_append_cons_of_mem (List.mem_reverse.mpr hasDot) with
        ⟨back, front, chars, absent⟩
      have written : name = front.reverse ++ '.' :: back.reverse :=
        List.reverse_injective (by simpa using chars)
      have noDot : '.' ∉ back.reverse := by simpa using absent
      rw [written, splitLastDot?_append _ noDot, Option.some.injEq, Prod.mk.injEq] at cut
      rcases cut with ⟨rfl, rfl⟩
      exact ⟨written, noDot⟩
    · rw [splitLastDot?_of_not_mem hasDot] at cut
      cases cut
  · rintro ⟨rfl, absent⟩
    exact splitLastDot?_append stem absent

private theorem hasExtension_iff {name extension : String} :
    HasExtension name extension ↔ name ≠ ".." ∧
      ∃ stem, stem ≠ [] ∧ splitLastDot? name.toList = some (stem, extension.toList) := by
  constructor
  · rintro ⟨notAbove, noDot, stem, someStem, written⟩
    refine ⟨notAbove, stem.toList, by simpa using someStem,
      splitLastDot?_eq_some_iff.mpr ⟨?_, noDot⟩⟩
    simp [written]
  · rintro ⟨notAbove, stem, someStem, cut⟩
    rcases splitLastDot?_eq_some_iff.mp cut with ⟨chars, noDot⟩
    refine ⟨notAbove, noDot, String.ofList stem, by simpa using someStem, String.toList_inj.mp ?_⟩
    simp [chars]

theorem HasExtension.not_here {name extension : String} (has : HasExtension name extension) :
    name ≠ "." := by
  rintro rfl
  rcases has.cut with ⟨stem, someStem, written⟩
  have chars := congrArg String.toList written
  have someChar : stem.toList ≠ [] := by simpa using someStem
  rcases List.exists_cons_of_ne_nil someChar with ⟨head, tail, stemChars⟩
  simp [stemChars] at chars

theorem extension?_eq_some_iff {path extension : String} :
    extension? path = some extension ↔ HasExtension (lastName path) extension := by
  simp only [extension?, baseName_slashed]
  by_cases isDirectory : lastName path = "." ∨ lastName path = ".."
  · rw [if_pos isDirectory]
    exact iff_of_false nofun fun has => isDirectory.elim has.not_here has.not_above
  · rw [if_neg isDirectory, hasExtension_iff]
    cases cut : splitLastDot? (lastName path).toList with
    | none => simp
    | some parts =>
        rcases parts with ⟨stem, suffix⟩
        have notAbove : lastName path ≠ ".." := (not_or.mp isDirectory).2
        have sameText : String.ofList suffix = extension ↔ suffix = extension.toList := by
          rw [← String.toList_inj, String.toList_ofList]
        by_cases noStem : stem = []
        · simp [noStem]
        · simp [noStem, notAbove, sameText]

private theorem extension?_eq_none_iff {path : String} :
    extension? path = none ↔ ∀ extension, ¬HasExtension (lastName path) extension := by
  rw [Option.eq_none_iff_forall_ne_some]
  exact forall_congr' fun _ => not_congr extension?_eq_some_iff

private theorem extension?_text {position : Position} (plain : position.IsPlain)
    {front : List String}
    {stem extension : String} (written : position.names = front ++ [stem ++ "." ++ extension])
    (someStem : stem ≠ "") (noDot : '.' ∉ extension.toList) :
    extension? position.text = some extension := by
  have isLast : stem ++ "." ++ extension ∈ position.names := by simp [written]
  have last : lastName position.text = stem ++ "." ++ extension := by
    rw [← baseName_slashed, Position.slashed_text plain, baseName, Position.components_text plain,
      Position.components, written, if_neg (by simp), ← List.append_assoc, List.getLastD_concat]
  rw [extension?_eq_some_iff, last]
  exact ⟨(position.ordinary _ isLast).not_above, noDot, stem, someStem, rfl⟩

end Path

namespace Import

open ImportAtlas.Path (Position)

private theorem tries_eq_cons (position : Position) :
    tries position = position :: (tries position).tail := by
  rw [tries, List.cons_append, List.tail_cons]

private theorem isScannable_of_mem_resolutionExtensions :
    ∀ extension ∈ resolutionExtensions,
      '.' ∉ extension.toList ∧ isScannable (some extension) = true := by
  decide

private theorem isScannable_of_mem_tail_tries {position candidate : Position}
    (plain : position.IsPlain)
    (member : candidate ∈ (tries position).tail) :
    isScannable (Path.extension? candidate.text) = true := by
  have candidatePlain := isPlain_of_mem_tries plain candidate (List.mem_of_mem_tail member)
  rw [tries, List.cons_append, List.tail_cons, List.mem_append] at member
  rcases member with isFile | isIndex
  · split at isFile
    · cases isFile
    · rename_i someNames
      rcases List.mem_map.mp isFile with ⟨extension, inExtensions, rfl⟩
      rcases Position.exists_last someNames with ⟨front, last, _, isOrdinary, extended⟩
      rcases isScannable_of_mem_resolutionExtensions extension inExtensions with ⟨noDot, scannable⟩
      rw [Path.extension?_text candidatePlain (extended extension) isOrdinary.nonempty noDot]
      exact scannable
  · rcases List.mem_map.mp isIndex with ⟨extension, inExtensions, rfl⟩
    rcases isScannable_of_mem_resolutionExtensions extension inExtensions with ⟨noDot, scannable⟩
    have entered : (position.withIndex extension).names =
        position.names ++ ["index" ++ "." ++ extension] := rfl
    rw [Path.extension?_text candidatePlain entered (by decide) noDot]
    exact scannable

/-- The extension of a path is what its last name has behind the last dot, and there is none exactly
if the name cannot be cut there. It agrees with the candidates of a relative target in a relative
file: all of them but the first have the extension of a file that is scanned, so unless a target
resolves to the first one, it resolves to a file that is scanned itself. -/
theorem extensions_agree :
    (∀ path, (∀ extension, Path.extension? path = some extension ↔
        Path.HasExtension (Path.lastName path) extension) ∧
      (Path.extension? path = none ↔
        ∀ extension, ¬Path.HasExtension (Path.lastName path) extension)) ∧
    ∀ target importer, isRelative target = true → importer.toList.head? ≠ some '/' →
      importer.toList.head? ≠ some '\\' →
        ∃ first others, candidates target importer = first :: others ∧
          (∀ candidate ∈ others, isScannable (Path.extension? candidate) = true) ∧
          ∀ (isKnown : String → Bool) (found : String),
            resolve? isKnown target importer = some found → found ≠ first →
              isScannable (FileRecord.ofPath found).extension = true := by
  refine ⟨fun _ => ⟨fun _ => Path.extension?_eq_some_iff, Path.extension?_eq_none_iff⟩, ?_⟩
  intro target importer relative noSlash noBackslash
  have written : candidates target importer = (destination target importer).text ::
      (tries (destination target importer)).tail.map Position.text := by
    rw [candidates_eq relative (Path.head?_slashed noSlash noBackslash), tries_eq_cons,
      List.map_cons, List.tail_cons]
  have plain := isPlain_destination target importer
  have othersScannable : ∀ candidate ∈ (tries (destination target importer)).tail.map Position.text,
      isScannable (Path.extension? candidate) = true := by
    intro candidate member
    rcases List.mem_map.mp member with ⟨position, isOther, rfl⟩
    exact isScannable_of_mem_tail_tries plain isOther
  refine ⟨_, _, written, othersScannable, ?_⟩
  intro isKnown found resolved notFirst
  have isCandidate := List.mem_of_find?_eq_some resolved
  rw [written] at isCandidate
  rcases List.mem_cons.mp isCandidate with isFirst | isOther
  · exact absurd isFirst notFirst
  · simpa only [FileRecord.ofPath] using othersScannable found isOther

theorem extensions_agree_dottedTarget :
    Path.HasExtension (Path.lastName "src\\lib.v2") "v2" ∧ isScannable (some "v2") = false ∧
      resolve? (["src/lib.v2.ts"].contains ·) "./lib.v2" "src/a.ts" = some "src/lib.v2.ts" ∧
      isScannable (FileRecord.ofPath "src/lib.v2.ts").extension = true := by
  rcases extensions_agree with ⟨exact, agree⟩
  rcases agree "./lib.v2" "src/a.ts" (by decide) (by decide) (by decide) with
    ⟨first, others, written, _, scanned⟩
  have isFirst : first = "src/lib.v2" := by
    have head : (candidates "./lib.v2" "src/a.ts").head? = some "src/lib.v2" := by decide +kernel
    rw [written] at head
    exact Option.some.inj head
  have resolved : resolve? (["src/lib.v2.ts"].contains ·) "./lib.v2" "src/a.ts" =
      some "src/lib.v2.ts" := by
    decide +kernel
  exact ⟨((exact _).1 _).mp (by decide +kernel), by decide, resolved,
    scanned _ _ resolved (by simp [isFirst])⟩

end Import

end ImportAtlas
