import ImportAtlas.Import.Resolve
import ImportAtlas.Import.Scan
import ImportAtlas.Proofs.Path.Lexical

/-! # Import statements that are written for known files

Statements written line by line are found again in their order, whatever stands in the quotes. A
target that first goes up to the root and then names a listed file resolves to this file, wherever
the importing file lies.
-/

namespace ImportAtlas

/-- A name that can be written in an import statement as it is. -/
structure IsPlainName (name : String) : Prop extends IsName name where
  no_quote : '\'' ∉ name.toList
  no_doubleQuote : '"' ∉ name.toList
  no_backslash : '\\' ∉ name.toList
  no_return : '\r' ∉ name.toList

instance (name : String) : Decidable (IsPlainName name) :=
  decidable_of_iff
    (IsName name ∧ '\'' ∉ name.toList ∧ '"' ∉ name.toList ∧ '\\' ∉ name.toList ∧
      '\r' ∉ name.toList)
    ⟨fun ⟨isName, noQuote, noDoubleQuote, noBackslash, noReturn⟩ =>
        ⟨isName, noQuote, noDoubleQuote, noBackslash, noReturn⟩,
      fun plain => ⟨plain.toIsName, plain.no_quote, plain.no_doubleQuote, plain.no_backslash,
        plain.no_return⟩⟩

private theorem IsPlainName.isQuote_eq_false {name : String} (plain : IsPlainName name)
    {char : Char}
    (member : char ∈ name.toList) : Import.isQuote char = false := by
  have notQuote : char ≠ '\'' := fun equal => plain.no_quote (equal ▸ member)
  have notDoubleQuote : char ≠ '"' := fun equal => plain.no_doubleQuote (equal ▸ member)
  simp [Import.isQuote, notQuote, notDoubleQuote]

namespace Import

/-! ## Statements -/

def statement (target : String) : String := "import '" ++ target ++ "';"

def sourceText (targets : List String) (lastEnd : String) : String :=
  Text.joinText "\n" (targets.map statement) ++ lastEnd

private theorem targetsFrom_append (skipped rest : List Char) :
    targetsFrom skipped.length (skipped ++ rest) = targetsFrom 0 rest := by
  induction skipped with
  | nil => rfl
  | cons head tail induction => exact induction

theorem targetsFrom_of_statement? {head : Char} {skipped rest target : List Char}
    (found : statement? (head :: (skipped ++ rest)) = some (target, rest)) :
    targetsFrom 0 (head :: (skipped ++ rest)) = target :: targetsFrom 0 rest := by
  rw [targetsFrom, found]
  simp only [List.length_append, Nat.add_sub_cancel, targetsFrom_append]

theorem takeWhile_unquoted {front : List Char} (unquoted : ∀ char ∈ front, isQuote char = false)
    {quote : Char} (atQuote : isQuote quote = true) (rest : List Char) :
    (front ++ quote :: rest).takeWhile (!isQuote ·) = front := by
  have noQuote : ∀ char ∈ front, (!isQuote char) = true := by simpa using unquoted
  rw [List.takeWhile_append_of_pos noQuote]
  simp [atQuote]

theorem dropWhile_unquoted {front : List Char} (unquoted : ∀ char ∈ front, isQuote char = false)
    {quote : Char} (atQuote : isQuote quote = true) (rest : List Char) :
    (front ++ quote :: rest).dropWhile (!isQuote ·) = quote :: rest := by
  have noQuote : ∀ char ∈ front, (!isQuote char) = true := by simpa using unquoted
  rw [List.dropWhile_append_of_pos noQuote]
  simp [atQuote]

theorem target?_eq_some_iff {text target rest : List Char} :
    target? text = some (target, rest) ↔ target ≠ [] ∧ (∀ char ∈ target, isQuote char = false) ∧
      ∃ quote, isQuote quote = true ∧ text = target ++ quote :: rest := by
  constructor
  · intro found
    unfold target? at found
    split at found
    · rename_i taken first others quote left takenEq dropped
      simp only [Option.some.injEq, Prod.mk.injEq] at found
      rcases found with ⟨rfl, rfl⟩
      refine ⟨by simp, ?_, quote, ?_, ?_⟩
      · intro char member
        rw [← takenEq] at member
        simpa using List.mem_takeWhile_imp member
      · have notUnquoted := List.head?_dropWhile_not (!isQuote ·) text
        simpa [dropped] using notUnquoted
      · rw [← takenEq, ← dropped, List.takeWhile_append_dropWhile]
    · cases found
  · intro given
    rcases given with ⟨nonempty, unquoted, quote, atQuote, rfl⟩
    rcases List.exists_cons_of_ne_nil nonempty with ⟨first, others, rfl⟩
    simp only [target?, takeWhile_unquoted unquoted atQuote, dropWhile_unquoted unquoted atQuote]

private theorem target?_append {target : List Char} (nonempty : target ≠ [])
    (unquoted : ∀ char ∈ target, isQuote char = false) (rest : List Char) :
    target? (target ++ '\'' :: rest) = some (target, rest) :=
  target?_eq_some_iff.mpr ⟨nonempty, unquoted, '\'', by decide, rfl⟩

private theorem restsOfOpening_import (rest : List Char) :
    restsOfOpening ("import '".toList ++ rest) = [rest] := by
  have blank : Text.isBlank ' ' = true := by decide
  have notBlank : Text.isBlank '\'' = false := by decide
  have noClause : isClauseChar '\'' = false := by decide
  have quote : isQuote '\'' = true := by decide
  simp [restsOfOpening, restsOfImport, restsOfClause, Text.restsOfSome, Text.restsOfRun,
    Text.restsOfShortRuns, Text.restsOfWord, Text.restsOfChar, blank, notBlank, noClause, quote]

/-- Whether a target can stand between quotes. -/
def IsQuotable (target : String) : Prop :=
  target ≠ "" ∧ ∀ char ∈ target.toList, isQuote char = false

private theorem targetsFrom_statement {target : String} (quotable : IsQuotable target)
    (rest : List Char) :
    targetsFrom 0 ((statement target).toList ++ rest) = target.toList :: targetsFrom 0 rest := by
  have chars : (statement target).toList ++ rest =
      'i' :: ("mport '".toList ++ target.toList ++ ['\''] ++ ';' :: rest) := by
    simp [statement]
  have found : statement? ('i' :: ("mport '".toList ++ target.toList ++ ['\''] ++ ';' :: rest)) =
      some (target.toList, ';' :: rest) := by
    have same : 'i' :: ("mport '".toList ++ target.toList ++ ['\''] ++ ';' :: rest) =
        "import '".toList ++ (target.toList ++ '\'' :: ';' :: rest) := by simp
    rw [same, statement?, restsOfOpening_import, List.findSome?_singleton,
      target?_append (by simpa using quotable.1) quotable.2]
  have noStatement : statement? (';' :: rest) = none := rfl
  rw [chars, targetsFrom_of_statement? found, targetsFrom, noStatement]

theorem targetsFrom_lineFeed (rest : List Char) :
    targetsFrom 0 ('\n' :: rest) = targetsFrom 0 rest := by
  have noStatement : statement? ('\n' :: rest) = none := rfl
  rw [targetsFrom, noStatement]

private theorem targetsFrom_lines {written : List String}
    (quotable : ∀ target ∈ written, IsQuotable target) {ending : List Char}
    (noMore : targetsFrom 0 ending = []) :
    targetsFrom 0
        (Text.join ['\n'] (written.map fun target => (statement target).toList) ++ ending) =
      written.map String.toList := by
  induction written with
  | nil => exact noMore
  | cons first rest induction =>
      rcases List.forall_mem_cons.mp quotable with ⟨firstQuotable, restQuotable⟩
      have restFound := induction restQuotable
      cases rest with
      | nil => simp [Text.join, targetsFrom_statement firstQuotable, noMore]
      | cons second others =>
          rw [List.map_cons] at restFound
          simp only [List.map_cons, Text.join, List.append_assoc, List.cons_append,
            List.nil_append]
          rw [targetsFrom_statement firstQuotable, targetsFrom_lineFeed, restFound, List.map_cons]

theorem targets_sourceText {written : List String} {lastEnd : String}
    (quotable : ∀ target ∈ written, IsQuotable target)
    (ended : lastEnd = "" ∨ lastEnd = "\n") : targets (sourceText written lastEnd) = written := by
  have noMore : targetsFrom 0 lastEnd.toList = [] := by
    rcases ended with rfl | rfl
    · rfl
    · exact targetsFrom_lineFeed []
  have separator : "\n".toList = ['\n'] := rfl
  have chars : (sourceText written lastEnd).toList =
      Text.join ['\n'] (written.map fun target => (statement target).toList) ++
        lastEnd.toList := by
    simp [sourceText, Text.toList_joinText, separator, Function.comp_def]
  rw [targets, chars, targetsFrom_lines quotable noMore]
  simp [Function.comp_def]

theorem return_not_mem_sourceText {written : List String} {lastEnd : String}
    (noReturn : ∀ target ∈ written, '\r' ∉ target.toList)
    (ended : lastEnd = "" ∨ lastEnd = "\n") : '\r' ∉ (sourceText written lastEnd).toList := by
  have lines : '\r' ∉ (Text.joinText "\n" (written.map statement)).toList := by
    rw [Text.mem_joinText (by decide)]
    rintro ⟨line, member, inLine⟩
    rcases List.mem_map.mp member with ⟨target, inWritten, rfl⟩
    exact noReturn target inWritten (by simpa [statement] using inLine)
  rcases ended with rfl | rfl <;> simpa [sourceText] using lines

/-! ## Targets that go through the root -/

def targetThroughRoot (importer target : List String) : String :=
  "./" ++ String.join (List.replicate (importer.length - 1) "../") ++ Scan.pathText target

def partsThroughRoot (depth : Nat) (target : List String) : List String :=
  "." :: (List.replicate depth ".." ++ target)

theorem cases_of_mem_partsThroughRoot {depth : Nat} {target : List String} {part : String}
    (member : part ∈ partsThroughRoot depth target) : part = "." ∨ part = ".." ∨ part ∈ target := by
  rcases List.mem_cons.mp member with here | further
  · exact Or.inl here
  · rcases List.mem_append.mp further with up | inTarget
    · exact Or.inr (Or.inl (List.eq_of_mem_replicate up))
    · exact Or.inr (Or.inr inTarget)

private theorem pathText_up (depth : Nat) {names : List String} (nonempty : names ≠ []) :
    Scan.pathText (List.replicate depth ".." ++ names) =
      String.join (List.replicate depth "../") ++ Scan.pathText names := by
  induction depth with
  | zero => simp
  | succ depth induction =>
      have first : List.replicate (depth + 1) ".." ++ names =
          [".."] ++ (List.replicate depth ".." ++ names) := rfl
      apply String.toList_inj.mp
      rw [first, Scan.toList_pathText_append (by simp) (by simp [nonempty]), induction,
        List.replicate_succ]
      simp

theorem targetThroughRoot_eq (above : List String) (last : String) {target : List String}
    (nonempty : target ≠ []) :
    targetThroughRoot (above ++ [last]) target =
      Scan.pathText (partsThroughRoot above.length target) := by
  have parts : partsThroughRoot above.length target =
      ["."] ++ (List.replicate above.length ".." ++ target) := rfl
  apply String.toList_inj.mp
  rw [parts, Scan.toList_pathText_append (by simp) (by simp [nonempty]), pathText_up _ nonempty]
  simp [targetThroughRoot]

/-! ### Characters -/

section Characters

variable {importer target : List String} (importerSome : importer ≠ []) (targetSome : target ≠ [])
  (plain : ∀ name ∈ target, IsPlainName name)
include importerSome targetSome

theorem mem_targetThroughRoot {char : Char}
    (member : char ∈ (targetThroughRoot importer target).toList) :
    char = '/' ∨ char = '.' ∨ ∃ name ∈ target, char ∈ name.toList := by
  rcases List.eq_nil_or_concat importer with rfl | ⟨above, last, rfl⟩
  · exact absurd rfl importerSome
  rw [List.concat_eq_append, targetThroughRoot_eq above last targetSome, Scan.pathText] at member
  by_cases slash : char = '/'
  · exact Or.inl slash
  rw [Text.mem_joinText (by simpa using slash)] at member
  rcases member with ⟨part, inParts, inPart⟩
  rcases cases_of_mem_partsThroughRoot inParts with rfl | rfl | inTarget
  · exact Or.inr (Or.inl (by simpa using inPart))
  · exact Or.inr (Or.inl (by simpa using inPart))
  · exact Or.inr (Or.inr ⟨part, inTarget, inPart⟩)

include plain

theorem isQuotable_targetThroughRoot : IsQuotable (targetThroughRoot importer target) := by
  refine ⟨by simp [targetThroughRoot], ?_⟩
  intro char member
  rcases mem_targetThroughRoot importerSome targetSome member with rfl | rfl | ⟨name, named, inName⟩
  · decide
  · decide
  · exact (plain name named).isQuote_eq_false inName

theorem return_not_mem_targetThroughRoot :
    '\r' ∉ (targetThroughRoot importer target).toList := by
  intro member
  rcases mem_targetThroughRoot importerSome targetSome member with slash | dot |
    ⟨name, named, inName⟩
  · exact absurd slash (by decide)
  · exact absurd dot (by decide)
  · exact (plain name named).no_return inName

end Characters

/-! ### Resolution -/

/-- Read from the directory of the importing file, a target through the root names what stands
behind the way up. -/
private theorem basePath_targetThroughRoot {above target : List String} {last : String}
    (importerPlain : ∀ name ∈ above ++ [last], IsPlainName name) (targetSome : target ≠ [])
    (targetPlain : ∀ name ∈ target, IsPlainName name) :
    basePath (targetThroughRoot (above ++ [last]) target) (Scan.pathText (above ++ [last])) =
      Scan.pathText target := by
  have importerNamed : ∀ name ∈ above ++ [last], IsName name :=
    fun name member => (importerPlain name member).toIsName
  have abovePlain : ∀ name ∈ above, IsPlainName name :=
    fun name member => importerPlain name (List.mem_append_left [last] member)
  have aboveNamed : ∀ name ∈ above, IsName name :=
    fun name member => (abovePlain name member).toIsName
  have targetNamed : ∀ name ∈ target, IsName name :=
    fun name member => (targetPlain name member).toIsName
  have written : ∀ part ∈ above ++ partsThroughRoot above.length target,
      '/' ∉ part.toList ∧ '\\' ∉ part.toList := by
    have ofPlain : ∀ {name}, IsPlainName name → '/' ∉ name.toList ∧ '\\' ∉ name.toList :=
      fun plain => ⟨plain.no_slash, plain.no_backslash⟩
    intro part member
    rcases List.mem_append.mp member with inAbove | inParts
    · exact ofPlain (abovePlain part inAbove)
    · rcases cases_of_mem_partsThroughRoot inParts with rfl | rfl | inTarget
      · decide
      · decide
      · exact ofPlain (targetPlain part inTarget)
  have relative : (Scan.pathText (above ++ partsThroughRoot above.length target)).toList.head? ≠
      some '/' := by
    cases above with
    | nil => exact Scan.head?_pathText_cons (by decide) (by decide) _
    | cons first rest =>
        have firstNamed := aboveNamed first List.mem_cons_self
        exact Scan.head?_pathText_cons firstNamed.nonempty firstNamed.no_slash _
  have evaluated : Path.collapse false (above ++ partsThroughRoot above.length target) = target :=
    Path.collapse_up aboveNamed targetNamed
  have partsSome : partsThroughRoot above.length target ≠ [] := List.cons_ne_nil _ _
  have partsRelative : (Scan.pathText (partsThroughRoot above.length target)).toList.head? ≠
      some '/' :=
    Scan.head?_pathText_cons (by decide) (by decide) _
  rw [targetThroughRoot_eq above last targetSome, basePath,
    Path.slashed_pathText fun name member => (importerPlain name member).no_backslash,
    Path.directoryName_pathText importerNamed,
    Path.join_pathText aboveNamed partsSome partsRelative,
    Path.normalize_pathText (List.append_ne_nil_of_right_ne_nil _ partsSome)
      (fun part member => (written part member).1) (fun part member => (written part member).2)
      relative evaluated targetSome targetNamed]

theorem resolve?_targetThroughRoot {importer target : List String} (importerSome : importer ≠ [])
    (targetSome : target ≠ []) (importerPlain : ∀ name ∈ importer, IsPlainName name)
    (targetPlain : ∀ name ∈ target, IsPlainName name) {isKnown : String → Bool}
    (known : isKnown (Scan.pathText target) = true) :
    resolve? isKnown (targetThroughRoot importer target) (Scan.pathText importer) =
      some (Scan.pathText target) := by
  have relative : isRelative (targetThroughRoot importer target) = true := by
    simp [isRelative, targetThroughRoot]
  have base : basePath (targetThroughRoot importer target) (Scan.pathText importer) =
      Scan.pathText target := by
    rcases List.eq_nil_or_concat importer with rfl | ⟨above, last, rfl⟩
    · exact absurd rfl importerSome
    · rw [List.concat_eq_append] at importerPlain ⊢
      exact basePath_targetThroughRoot importerPlain targetSome targetPlain
  rw [resolve?, candidates, if_pos relative, base, candidatesAt, List.cons_append,
    List.find?_cons_of_pos known]

end Import

end ImportAtlas
