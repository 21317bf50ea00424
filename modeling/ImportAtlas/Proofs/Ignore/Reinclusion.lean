import ImportAtlas.Proofs.Ignore.Layers
import ImportAtlas.Proofs.Ignore.Matching
import ImportAtlas.Proofs.Path.Names
import ImportAtlas.Proofs.Text.Blank

/-! # Files in directories that are kept again

A negation that asks for a directory matches this directory, and with it every file below it
whose path is on one line. So it takes back that a file is ignored for its own name. Main
statement: a file that is ignored for its name stays ignored exactly if the negations after
this pattern keep none of the directories above it.
-/

namespace ImportAtlas.Ignore

open Text (Code Coded)

/-! ## Paths below a base -/

/-- The path of some names below a base. -/
def pathUnder (base : String) (names : List String) : String :=
  if base = "" then Scan.pathText names else base ++ "/" ++ Scan.pathText names

private theorem pathBelow?_pathUnder (base : String) (names : List String) :
    pathBelow? base (pathUnder base names) = some (Scan.pathText names).toList := by
  by_cases isRoot : base = "" <;> simp [pathBelow?, pathUnder, isRoot]

/-! ## Patterns that ask for a directory -/

/-- The line that keeps the directories which a pattern matches. -/
def keepingLine (directory : Coded) : Coded := .char '!' :: (directory ++ [.char '/'])

def MatchesBefore (pieces : List PathPiece) : Prop :=
  ∃ upper : List Char → Prop, ∀ text, text ≠ [] → '\n' ∉ text →
    (matchPieces pieces text = true ↔ ∃ front below, upper front ∧ text = front ++ '/' :: below)

private theorem matchesBefore_descendants (pieces : List PathPiece) :
    MatchesBefore (pieces ++ [.descendants]) := by
  refine ⟨Takes pieces, fun text _ oneLine => ?_⟩
  simp only [matchPieces_append, matchPieces_cons_iff, matchPieces_nil_iff, PathPiece.Consumes]
  constructor
  · rintro ⟨front, _, taken, ⟨_, rest, ⟨below, _, rfl⟩, _, rfl⟩, rfl⟩
    exact ⟨front, below ++ rest, taken, rfl⟩
  · rintro ⟨front, below, taken, rfl⟩
    simp only [List.mem_append, List.mem_cons, not_or] at oneLine
    exact ⟨front, _, taken, ⟨_, [], ⟨below, oneLine.2.2, rfl⟩, Or.inl rfl, by simp⟩, rfl⟩

private theorem matchesBefore_belowAnyDirectory : MatchesBefore [.belowAnyDirectory] := by
  refine ⟨(· ≠ []), fun text _ oneLine => ?_⟩
  simp only [matchPieces_cons_iff, matchPieces_nil_iff, PathPiece.Consumes]
  constructor
  · rintro ⟨_, rest, ⟨front, below, nonempty, _, _, rfl⟩, _, rfl⟩
    exact ⟨front, below ++ rest, nonempty, by simp⟩
  · rintro ⟨front, below, nonempty, rfl⟩
    simp only [List.mem_append, List.mem_cons, not_or] at oneLine
    exact ⟨_, [], ⟨front, below, nonempty, oneLine.1, oneLine.2.2, rfl⟩, Or.inl rfl, by simp⟩

private theorem matchesBefore_selfOrDescendants : MatchesBefore [.selfOrDescendants] := by
  refine ⟨(· = []), fun text nonempty oneLine => ?_⟩
  simp only [matchPieces_cons_iff, matchPieces_nil_iff, PathPiece.Consumes]
  constructor
  · rintro ⟨_, rest, rfl | ⟨below, _, rfl⟩, rfl | rfl, rfl⟩
    · exact absurd rfl nonempty
    · exact absurd (by simp) oneLine
    · exact ⟨[], below, rfl, by simp⟩
    · exact absurd (by simp) oneLine
  · rintro ⟨_, below, rfl, rfl⟩
    rw [List.nil_append, List.mem_cons, not_or] at oneLine
    exact ⟨_, [], Or.inr ⟨below, oneLine.2, rfl⟩, Or.inl rfl, by simp⟩

private theorem mergeAnyDepth_ne_nil {segments : List Segment} (nonempty : segments ≠ []) :
    mergeAnyDepth segments ≠ [] := by
  fun_induction mergeAnyDepth segments <;> simp_all

private theorem mergeAnyDepth_concat_nil (segments : List Segment) :
    mergeAnyDepth (segments ++ [[]]) = mergeAnyDepth segments ++ [[]] := by
  induction segments with
  | nil => rfl
  | cons first rest induction =>
      cases rest with
      | nil => simp [mergeAnyDepth, anyDepth]
      | cons next tail =>
          rw [List.cons_append, List.cons_append, mergeAnyDepth, mergeAnyDepth,
            ← List.cons_append, induction]
          split <;> simp

private theorem exists_of_piecesOf?_concat {segments : List Segment} {isFirst needsSlash : Bool}
    (notAlone : isFirst = true → segments ≠ []) {pieces : List PathPiece}
    (found : piecesOf? isFirst needsSlash (segments ++ [anyDepth]) = some pieces) :
    ∃ front, pieces = front ++ [.descendants] := by
  induction segments generalizing isFirst needsSlash pieces with
  | nil =>
      have isInner : isFirst = false := by simpa using notAlone
      refine ⟨[], ?_⟩
      simpa [piecesOf?, isInner, eq_comm] using found
  | cons segment rest induction =>
      have further : ∀ {slash others}, piecesOf? false slash (rest ++ [anyDepth]) = some others →
          ∃ front, others = front ++ [.descendants] := fun given =>
        induction (by simp) given
      have notLast : (rest ++ [anyDepth]).isEmpty = false := by simp
      rw [List.cons_append, piecesOf?] at found
      simp only [notLast, Bool.and_false, Bool.false_eq_true, if_false] at found
      split at found
      · split at found <;> rcases Option.map_eq_some_iff.mp found with ⟨others, given, rfl⟩ <;>
          rcases further given with ⟨front, rfl⟩
        · exact ⟨.leadingDirectories :: front, rfl⟩
        · exact ⟨.innerDirectories :: front, rfl⟩
      · split at found
        · rcases Option.map_eq_some_iff.mp found with ⟨others, given, rfl⟩
          rcases further given with ⟨front, rfl⟩
          exact ⟨_, (List.append_assoc _ front _).symm⟩
        · simp only [Option.bind_eq_bind, Option.bind_eq_some_iff] at found
          rcases found with ⟨symbols, _, others, given, equal⟩
          rcases further given with ⟨front, rfl⟩
          rw [Option.some.injEq] at equal
          rw [← equal]
          exact ⟨_, (List.append_assoc _ front _).symm⟩

private theorem anchorSegments_concat_nil {segments : List Segment} (nonempty : segments ≠ []) :
    anchorSegments (segments ++ [[]]) = [[]] ∨
      ∃ others, others ≠ [] ∧ anchorSegments (segments ++ [[]]) = others ++ [[]] := by
  rcases List.exists_cons_of_ne_nil nonempty with ⟨first, rest, rfl⟩
  cases first with
  | nil =>
      cases rest with
      | nil => exact Or.inl rfl
      | cons next tail => exact Or.inr ⟨next :: tail, by simp, rfl⟩
  | cons code codes =>
      right
      cases rest with
      | nil =>
          by_cases isAnyDepth : code :: codes = anyDepth
          · exact ⟨[code :: codes], by simp, by rw [isAnyDepth]; rfl⟩
          · exact ⟨[anyDepth, code :: codes], by simp, by simp [anchorSegments, isAnyDepth]⟩
      | cons next tail =>
          cases tail with
          | nil => exact ⟨[code :: codes, next], by simp, by simp [anchorSegments]⟩
          | cons other tail =>
              exact ⟨(code :: codes) :: next :: other :: tail, by simp, by simp [anchorSegments]⟩

private theorem matchesBefore_of_linePieces? {directory : Coded} {pieces : List PathPiece}
    (found : linePieces? (directory ++ [.char '/']) = some pieces) : MatchesBefore pieces := by
  have segments : mergeAnyDepth (Text.split (.char '/') (directory ++ [.char '/'])) =
      mergeAnyDepth (Text.split (.char '/') directory) ++ [[]] := by
    rw [Text.split_append, ← mergeAnyDepth_concat_nil]
    rfl
  have nonempty : mergeAnyDepth (Text.split (.char '/') directory) ≠ [] :=
    mergeAnyDepth_ne_nil (by simp [Text.split])
  simp only [linePieces?, segments] at found
  split at found
  · rw [Option.some.injEq] at found
    exact found ▸ matchesBefore_belowAnyDirectory
  · rcases anchorSegments_concat_nil nonempty with alone | ⟨others, someOthers, anchored⟩
    · have single : some [PathPiece.selfOrDescendants] = some pieces := by
        simpa [alone, openTrailingSlash, piecesOf?, anyDepth, anyName, globSymbols?] using found
      rw [Option.some.injEq] at single
      exact single ▸ matchesBefore_selfOrDescendants
    · have opened : openTrailingSlash (others ++ [[]]) = others ++ [anyDepth] := by
        have several : 0 < others.length := List.length_pos_iff.mpr someOthers
        simp [openTrailingSlash, several]
      have someSegments : (others ++ [[]]).isEmpty = false := by simp
      simp only [anchored, someSegments, Bool.false_eq_true, if_false, opened] at found
      rcases exists_of_piecesOf?_concat (fun _ => someOthers) found with ⟨front, rfl⟩
      exact matchesBefore_descendants front

private theorem MatchesBefore.file_iff {pieces : List PathPiece} (before : MatchesBefore pieces)
    {names : List String} {name : String} (named : ∀ part ∈ names ++ [name], IsName part)
    (oneLine : ∀ part ∈ names ++ [name], '\n' ∉ part.toList) :
    matchPieces pieces (Scan.pathText (names ++ [name])).toList = true ↔
      ∃ above, above ≠ [] ∧ above <+: names ∧
        matchPieces pieces ((Scan.pathText above).toList ++ ['/']) = true := by
  rcases before with ⟨upper, matches_iff⟩
  have noFeed : '\n' ∉ (Scan.pathText (names ++ [name])).toList := by
    rw [Scan.pathText, Text.mem_joinText (by decide)]
    rintro ⟨part, member, inPart⟩
    exact oneLine part member inPart
  rw [matches_iff _ (Scan.toList_pathText_ne_nil (by simp) named) noFeed]
  constructor
  · rintro ⟨front, below, isUpper, equal⟩
    rcases Scan.exists_of_toList_pathText_eq (by simp) named equal with
      ⟨above, rest, parts, aboveSome, restSome, rfl⟩
    refine ⟨above, aboveSome, ?_, ?_⟩
    · rcases List.prefix_concat_iff.mp ⟨rest, parts.symm⟩ with whole | inNames
      · exact absurd (List.append_right_eq_self.mp (parts.symm.trans whole.symm)) restSome
      · exact inNames
    · refine (matches_iff _ (by simp) ?_).mpr ⟨_, [], isUpper, rfl⟩
      rw [equal, List.mem_append, not_or] at noFeed
      simpa using noFeed.1
  · rintro ⟨above, aboveSome, ⟨rest, rfl⟩, matched⟩
    rw [List.append_assoc, Scan.toList_pathText_append aboveSome (by simp)] at noFeed ⊢
    rw [matches_iff _ (by simp) (by simp_all)] at matched
    rcases matched with ⟨front, below, isUpper, equal⟩
    refine ⟨front, below ++ (Scan.pathText (rest ++ [name])).toList, isUpper, ?_⟩
    calc (Scan.pathText above).toList ++ '/' :: (Scan.pathText (rest ++ [name])).toList
        = ((Scan.pathText above).toList ++ ['/']) ++ (Scan.pathText (rest ++ [name])).toList := by
          simp
      _ = front ++ '/' :: (below ++ (Scan.pathText (rest ++ [name])).toList) := by
          rw [equal]
          simp

/-! ## Patterns that apply to names -/

private theorem cases_of_linePieces? {body : Coded} (plain : .char '/' ∉ body)
    {pieces : List PathPiece}
    (found : linePieces? body = some pieces) :
    pieces = [.component, .selfOrDescendants] ∨ ∃ own, pieces = .leadingDirectories :: own := by
  simp only [linePieces?, Text.split_of_not_mem plain, mergeAnyDepth] at found
  by_cases isAnyDepth : body = anyDepth
  · subst isAnyDepth
    exact Or.inl (Option.some.inj found).symm
  · cases body with
    | nil => simp [anchorSegments] at found
    | cons code codes =>
        have anchored : anchorSegments [code :: codes] = [anyDepth, code :: codes] := by
          simp [anchorSegments, isAnyDepth]
        have kept : openTrailingSlash [anyDepth, code :: codes] = [anyDepth, code :: codes] := by
          simp [openTrailingSlash]
        simp only [List.cons.injEq, reduceCtorEq, and_false, if_false, anchored, kept,
          List.isEmpty_cons, Bool.false_eq_true] at found
        rw [piecesOf?] at found
        simp only [List.isEmpty_cons, Bool.and_false, Bool.false_eq_true, if_false,
          if_true] at found
        rcases Option.map_eq_some_iff.mp found with ⟨own, _, rfl⟩
        exact Or.inr ⟨own, rfl⟩

private theorem matchPieces_of_name {body : Coded} (plain : .char '/' ∉ body)
    {pieces : List PathPiece}
    (found : linePieces? body = some pieces) {names : List String} {name : String}
    (named : ∀ part ∈ names ++ [name], IsName part)
    (oneLine : ∀ part ∈ names ++ [name], '\n' ∉ part.toList)
    (matched : matchPieces pieces name.toList = true) :
    matchPieces pieces (Scan.pathText (names ++ [name])).toList = true := by
  have noFeed : ∀ {parts : List String}, parts ⊆ names ++ [name] →
      '\n' ∉ (Scan.pathText parts).toList := by
    intro parts subset member
    rcases (Text.mem_joinText (by decide)).mp member with ⟨part, inParts, inPart⟩
    exact oneLine part (subset inParts) inPart
  cases names with
  | nil => simpa using matched
  | cons first rest =>
      rcases List.forall_mem_cons.mp named with ⟨firstNamed, restNamed⟩
      rcases cases_of_linePieces? plain found with rfl | ⟨own, rfl⟩
      · have parts : first :: rest ++ [name] = [first] ++ (rest ++ [name]) := rfl
        rw [parts, Scan.toList_pathText_append (by simp) (by simp), Scan.pathText_singleton]
        refine matchPieces_cons_iff.mpr ⟨first.toList, _, ⟨?_, firstNamed.no_slash⟩, ?_, rfl⟩
        · simpa using firstNamed.nonempty
        · refine matchPieces_cons_iff.mpr
            ⟨_, [], Or.inr ⟨_, ?_, rfl⟩, rfl, (List.append_nil _).symm⟩
          exact noFeed (by simp)
      · rcases matchPieces_cons_iff.mp matched with ⟨front, last, consumed, ownMatched, equal⟩
        have nothing : front = [] := by
          rcases consumed with isEmpty | ⟨upper, _, _, rfl⟩
          · exact isEmpty
          · exact absurd (by simp [equal]) (named name (by simp)).no_slash
        rw [Scan.toList_pathText_append (by simp) (by simp), Scan.pathText_singleton, equal,
          nothing]
        refine matchPieces_cons_iff.mpr
          ⟨(Scan.pathText (first :: rest)).toList ++ ['/'], last, Or.inr ⟨_, ?_, ?_, rfl⟩,
            ownMatched, by simp⟩
        · exact Scan.toList_pathText_ne_nil (by simp) fun part member =>
            named part (List.mem_append_left [name] member)
        · exact noFeed (List.subset_append_left _ _)

/-! ## Lines -/

theorem cases_of_compileLine {line : Coded} {pattern : Pattern}
    (compiled : compileLine line = .ok (some pattern)) :
    (∃ body, trimLine line = .char '!' :: body ∧ pattern.ignores = false ∧
      linePieces? body = some pattern.pieces) ∨
    ((trimLine line).head? ≠ some (.char '!') ∧ pattern.ignores = true ∧
      linePieces? (trimLine line) = some pattern.pieces) := by
  unfold compileLine at compiled
  generalize trimLine line = text at compiled
  cases text with
  | nil => simp at compiled
  | cons first rest =>
      by_cases skipped : first = .char '#' ∨ first = .char '/' ∧ rest = []
      · simp [skipped] at compiled
      · by_cases negated : first = .char '!'
        · subst negated
          cases found : linePieces? rest with
          | none => simp [found] at compiled
          | some pieces =>
              cases reversed : reversedRange? 1 pieces with
              | some range => simp [found, reversed] at compiled
              | none =>
                  have equal : ⟨false, pieces⟩ = pattern := by
                    simpa [found, reversed] using compiled
                  subst equal
                  exact Or.inl ⟨rest, rfl, rfl, found⟩
        · cases found : linePieces? (first :: rest) with
          | none => simp [skipped, negated, found] at compiled
          | some pieces =>
              cases reversed : reversedRange? 1 pieces with
              | some range => simp [skipped, negated, found, reversed] at compiled
              | none =>
                  have equal : ⟨true, pieces⟩ = pattern := by
                    simpa [skipped, negated, found, reversed] using compiled
                  subst equal
                  exact Or.inr ⟨by simpa using negated, rfl, rfl⟩

theorem compileLine_of_pattern? {line : Coded} {pattern : Pattern}
    (given : pattern? line = some pattern) :
    compileLine (dropLineEnds line) = .ok (some pattern) := by
  unfold pattern? at given
  split at given
  · rename_i compiled
    exact compiled.trans (congrArg Except.ok given)
  · cases given

theorem mem_of_mem_dropEndWhile {α : Type} {drops : α → Bool} {row : List α} {item : α}
    (member : item ∈ Text.dropEndWhile drops row) : item ∈ row := by
  rcases Text.exists_dropEndWhile_append drops row with ⟨dropped, _, equal⟩
  rw [equal]
  exact List.mem_append_left dropped member

private theorem mem_of_mem_trimLine {line : Coded} {code : Code} (member : code ∈ trimLine line) :
    code ∈ line := by
  unfold trimLine at member
  split at member
  · exact (List.dropWhile_sublist _).subset member
  · exact (List.dropWhile_sublist _).subset (mem_of_mem_dropEndWhile member)

private theorem exists_of_pattern? {line : Coded} {pattern : Pattern}
    (given : pattern? line = some pattern)
    (positive : pattern.ignores = true) (plain : .char '/' ∉ line) :
    ∃ body, .char '/' ∉ body ∧ linePieces? body = some pattern.pieces := by
  rcases cases_of_compileLine (compileLine_of_pattern? given) with
    ⟨_, _, negative, _⟩ | ⟨_, _, found⟩
  · rw [positive] at negative
    cases negative
  · exact ⟨_, fun member => plain (mem_of_mem_dropEndWhile (mem_of_mem_trimLine member)), found⟩

private theorem trimLine_keepingLine (directory : Coded) :
    trimLine (dropLineEnds (keepingLine directory)) = keepingLine directory := by
  have slashStays : isLineEnd (.char '/') = false := by decide
  have notLast : ¬Code.isBlank (.char '/') = true := by decide
  have notFirst : ¬Code.isBlank (.char '!') = true := by decide
  have ends : dropLineEnds (keepingLine directory) = keepingLine directory := by
    simp [dropLineEnds, Text.dropEndWhile, keepingLine, slashStays]
  rw [ends]
  simp [keepingLine, trimLine, Coded.trim, Text.dropEndWhile, notFirst, notLast]

private theorem pattern?_keepingLine {directory : Coded} {pattern : Pattern}
    (given : pattern? (keepingLine directory) = some pattern) :
    pattern.ignores = false ∧ MatchesBefore pattern.pieces := by
  have shape := cases_of_compileLine (compileLine_of_pattern? given)
  rw [trimLine_keepingLine, keepingLine] at shape
  rcases shape with ⟨body, opened, negative, found⟩ | ⟨notNegated, _⟩
  · rw [List.cons.injEq] at opened
    exact ⟨negative, matchesBefore_of_linePieces? (opened.2 ▸ found)⟩
  · exact absurd rfl notNegated

/-! ## Ignored names in directories that are kept -/

section Kept

variable {patterns : List Pattern}
  (keeping : ∀ pattern ∈ patterns, pattern.ignores = false ∧ MatchesBefore pattern.pieces)
include keeping

private theorem lastDecision_file_eq_none_iff {names : List String} {name : String}
    (named : ∀ part ∈ names ++ [name], IsName part)
    (oneLine : ∀ part ∈ names ++ [name], '\n' ∉ part.toList) :
    lastDecision patterns (Scan.pathText (names ++ [name])).toList = none ↔
      ∀ above, above ≠ [] → above <+: names →
        lastDecision patterns ((Scan.pathText above).toList ++ ['/']) = none := by
  simp only [lastDecision_eq_none_iff]
  constructor
  · intro noneMatches above aboveSome before pattern member
    rw [Bool.eq_false_iff]
    intro matched
    refine absurd ?_ (Bool.eq_false_iff.mp (noneMatches pattern member))
    exact ((keeping pattern member).2.file_iff named oneLine).mpr ⟨above, aboveSome, before,
      matched⟩
  · intro noneAbove pattern member
    rw [Bool.eq_false_iff]
    intro matched
    rcases ((keeping pattern member).2.file_iff named oneLine).mp matched with
      ⟨above, aboveSome, before, matchesAbove⟩
    exact absurd matchesAbove
      (Bool.eq_false_iff.mp (noneAbove above aboveSome before pattern member))

private theorem getD_or_eq_true_iff {path : List Char} :
    ((lastDecision patterns path).or (some true)).getD false = true ↔
      lastDecision patterns path = none := by
  cases decided : lastDecision patterns path with
  | none => simp
  | some decision =>
      have kept := eq_of_lastDecision (fun pattern member => (keeping pattern member).1) decided
      simp [kept]

end Kept

private theorem lastDecision_of_matchesPath {pattern : Pattern} {path : List Char}
    (matched : pattern.matchesPath path = true) (earlier later : List Pattern) :
    lastDecision (earlier ++ pattern :: later) path =
      (lastDecision later path).or (some pattern.ignores) := by
  rw [lastDecision_append, lastDecision_cons, if_pos matched]
  cases lastDecision later path <;> rfl

private theorem isIgnored_single (layer : Layer) (path : String) (isDirectory : Bool) :
    (⟨[layer]⟩ : Rules).isIgnored path isDirectory =
    (layer.decide path isDirectory).getD false := by
  simp [Rules.isIgnored]

/-- Of some lines, one ignores a file for its name, and the later ones all keep directories. The
file stays ignored exactly if these keep none of the directories above it. -/
theorem isIgnored_iff_keepsNone {base source : String} {earlier directories : List Coded}
    {line : Coded} {pattern : Pattern}
    (earlierValid : ∀ other ∈ earlier, isReversed other = false)
    (given : pattern? line = some pattern) (positive : pattern.ignores = true)
    (plain : .char '/' ∉ line)
    (laterValid : ∀ directory ∈ directories, isReversed (keepingLine directory) = false)
    {names : List String} {name : String} (named : ∀ part ∈ names ++ [name], IsName part)
    (oneLine : ∀ part ∈ names ++ [name], '\n' ∉ part.toList)
    (matched : pattern.matchesPath name.toList = true) :
    ∃ rules, (Rules.empty.withLines base (earlier ++ line :: directories.map keepingLine)
        source).outcome = .ok rules ∧
      (rules.isIgnored (pathUnder base (names ++ [name])) false = true ↔
        ∀ above, above ≠ [] → above <+: names →
          (Layer.mk base (patternsOf (directories.map keepingLine)) source).decide
            (pathUnder base above) true = none) := by
  have valid : ∀ other ∈ earlier ++ line :: directories.map keepingLine,
      isReversed other = false := by
    intro other member
    rcases List.mem_append.mp member with inEarlier | later
    · exact earlierValid other inEarlier
    · rcases List.mem_cons.mp later with rfl | inNegations
      · simp [isReversed, compileLine_of_pattern? given]
      · rcases List.mem_map.mp inNegations with ⟨directory, inDirectories, rfl⟩
        exact laterValid directory inDirectories
  have keeping : ∀ kept ∈ patternsOf (directories.map keepingLine),
      kept.ignores = false ∧ MatchesBefore kept.pieces := by
    intro kept member
    rcases List.mem_filterMap.mp member with ⟨_, inLines, compiled⟩
    rcases List.mem_map.mp inLines with ⟨directory, _, rfl⟩
    exact pattern?_keepingLine compiled
  have ownMatch : pattern.matchesPath (Scan.pathText (names ++ [name])).toList = true := by
    rcases exists_of_pattern? given positive plain with ⟨body, noSlash, found⟩
    exact matchPieces_of_name noSlash found named oneLine matched
  have patterns : patternsOf (earlier ++ line :: directories.map keepingLine) =
      patternsOf earlier ++ pattern :: patternsOf (directories.map keepingLine) := by
    simp [patternsOf, given]
  refine ⟨_, Rules.outcome_withLines [] base source valid, ?_⟩
  rw [Rules.isIgnored_ofLayers, List.nil_append, isIgnored_single]
  simp only [Layer.decide, pathBelow?_pathUnder, Option.bind_some, presented, Bool.false_eq_true,
    if_false, if_true, patterns]
  rw [lastDecision_of_matchesPath ownMatch, positive, getD_or_eq_true_iff keeping,
    lastDecision_file_eq_none_iff keeping named oneLine]

theorem isIgnored_iff_keepsNone_otherDirectory :
    ∃ rules, (Rules.empty.withLines "" ["!a.log", "*.log", keepingLine "d"] ".gitignore").outcome =
        .ok rules ∧ rules.isIgnored "e/x.log" false = true := by
  have given : ∃ pattern, pattern? "*.log" = some pattern ∧ pattern.ignores = true ∧
      pattern.matchesPath "x.log".toList = true :=
    ⟨(pattern? "*.log").getD ⟨false, []⟩, by decide +kernel, by decide +kernel, by decide +kernel⟩
  rcases given with ⟨pattern, isPattern, positive, matched⟩
  rcases @isIgnored_iff_keepsNone "" ".gitignore" ["!a.log"] ["d"] "*.log" pattern
      (by decide +kernel) isPattern positive (by decide) (by decide +kernel) ["e"] "x.log"
      (by decide +kernel) (by decide +kernel) matched with ⟨rules, compiled, stays⟩
  refine ⟨rules, compiled, stays.mpr ?_⟩
  intro above aboveSome before
  rcases List.prefix_concat_iff.mp (show above <+: [] ++ ["e"] from before) with rfl | inNothing
  · decide +kernel
  · exact absurd (List.prefix_nil.mp inNothing) aboveSome

theorem isIgnored_file_of_keptDirectory :
    (∃ pattern, pattern? "*.log" = some pattern ∧ pattern.ignores = true ∧
      pattern.matchesPath "x.log".toList = true) ∧ isReversed (keepingLine "d") = false ∧
    ∃ rules, (Rules.empty.withLines "" ["*.log", keepingLine "d"] ".gitignore").outcome =
        .ok rules ∧ rules.isIgnored (pathUnder "" ["d", "x.log"]) false = false := by
  refine ⟨⟨(pattern? "*.log").getD ⟨false, []⟩, by decide +kernel, by decide +kernel,
    by decide +kernel⟩, by decide +kernel, ?_⟩
  exact ⟨_, Rules.outcome_withLines [] "" ".gitignore" (by decide +kernel), by decide +kernel⟩

end ImportAtlas.Ignore
