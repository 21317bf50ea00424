import ImportAtlas.Proofs.Ignore.Layers
import ImportAtlas.Proofs.Text.Blank

/-! # Precedence of patterns

Rules are built by adding lines for one directory after the other. The layers are asked from the
last one back and the patterns of a layer from the first one on. Main statement: together this is
one list of patterns in the order in which they were added, of which the last one that applies to a
path decides, so it makes no difference how the lines are spread over layers.
-/

namespace ImportAtlas.Ignore

open Text (Code Coded)

/-! ## Decisions -/

/-- Lines that are added for the paths below a base. -/
structure Addition where
  base : String
  lines : List Coded
  source : String
deriving DecidableEq, Repr

def Addition.IsValid (addition : Addition) : Prop :=
  ∀ line ∈ addition.lines, isReversed line = false

instance (addition : Addition) : Decidable addition.IsValid :=
  inferInstanceAs (Decidable (∀ line ∈ addition.lines, isReversed line = false))

namespace Rules

def decision? (rules : Rules) (path : String) (isDirectory : Bool) : Option Bool :=
  rules.layers.reverse.findSome? fun layer => layer.decide path isDirectory

theorem isIgnored_eq_getD (rules : Rules) (path : String) (isDirectory : Bool) :
    rules.isIgnored path isDirectory = (rules.decision? path isDirectory).getD false := rfl

theorem decision?_concat (layers : List Layer) (layer : Layer) (path : String)
    (isDirectory : Bool) :
    decision? ⟨layers ++ [layer]⟩ path isDirectory =
      (layer.decide path isDirectory).or (decision? ⟨layers⟩ path isDirectory) := by
  rw [decision?, decision?, List.reverse_append, List.reverse_singleton, List.singleton_append,
    List.findSome?_cons]
  cases layer.decide path isDirectory <;> rfl

theorem decision?_push (rules : Rules) (base : String) (patterns : List Pattern)
    (source path : String)
    (isDirectory : Bool) :
    (rules.push base patterns source).decision? path isDirectory =
      ((Layer.mk base patterns source).decide path isDirectory).or
        (rules.decision? path isDirectory) := by
  unfold push
  by_cases silent : patterns.isEmpty = true
  · rw [if_pos silent, Layer.decide_of_isEmpty silent, Option.none_or]
  · rw [if_neg silent]
    exact decision?_concat rules.layers _ path isDirectory

end Rules

/-! ## The flat list -/

structure Anchored where
  base : String
  pattern : Pattern
deriving DecidableEq, Repr

def openingOf (base : String) : List Char :=
  if base = "" then [] else base.toList ++ ['/']

def Anchored.applies (anchored : Anchored) (path : String) (isDirectory : Bool) : Bool :=
  (openingOf anchored.base).isPrefixOf path.toList &&
    anchored.pattern.matchesPath
      (presented (path.toList.drop (openingOf anchored.base).length) isDirectory)

def lastApplying? (all : List Anchored) (path : String) (isDirectory : Bool) : Option Anchored :=
  (all.filter fun anchored => anchored.applies path isDirectory).getLast?

def Layer.anchored (layer : Layer) : List Anchored :=
  layer.patterns.map (Anchored.mk layer.base)

def Rules.anchored (rules : Rules) : List Anchored := rules.layers.flatMap Layer.anchored

def Addition.anchored (addition : Addition) : List Anchored :=
  (patternsOf addition.lines).map (Anchored.mk addition.base)

private theorem pathBelow?_eq (base path : String) :
    pathBelow? base path =
      if (openingOf base).isPrefixOf path.toList then
        some (path.toList.drop (openingOf base).length)
      else none := by
  unfold pathBelow? openingOf
  by_cases isRoot : base = ""
  · simp [isRoot]
  · simp only [if_neg isRoot]

private theorem lastDecision_eq_getLast? (patterns : List Pattern) (path : List Char) :
    lastDecision patterns path =
      (patterns.filter fun pattern => pattern.matchesPath path).getLast?.map Pattern.ignores := by
  induction patterns using List.reverseRecOn with
  | nil => rfl
  | append_singleton patterns pattern induction =>
      rw [lastDecision_append, induction, List.filter_append, List.getLast?_append,
        Option.map_or]
      by_cases matched : pattern.matchesPath path = true <;> simp [lastDecision, matched]

private theorem lastApplying?_append (first second : List Anchored) (path : String)
    (isDirectory : Bool) :
    lastApplying? (first ++ second) path isDirectory =
      (lastApplying? second path isDirectory).or (lastApplying? first path isDirectory) := by
  rw [lastApplying?, List.filter_append, List.getLast?_append]
  rfl

private theorem Layer.decide_eq (layer : Layer) (path : String) (isDirectory : Bool) :
    layer.decide path isDirectory =
      (lastApplying? layer.anchored path isDirectory).map (·.pattern.ignores) := by
  rw [decide, pathBelow?_eq, lastApplying?, anchored, List.filter_map, List.getLast?_map,
    Option.map_map]
  by_cases below : (openingOf layer.base).isPrefixOf path.toList = true
  · rw [if_pos below, Option.bind_some, lastDecision_eq_getLast?]
    simp only [Function.comp_def, Anchored.applies, below, Bool.true_and]
  · have noneApplies : (fun anchored : Anchored => anchored.applies path isDirectory) ∘
        Anchored.mk layer.base = fun _ => false := by
      funext pattern
      simp [Anchored.applies, below]
    rw [if_neg below, noneApplies, List.filter_eq_nil_iff.mpr (by simp)]
    rfl

namespace Rules

private theorem decision?_eq (rules : Rules) (path : String) (isDirectory : Bool) :
    rules.decision? path isDirectory =
      (lastApplying? rules.anchored path isDirectory).map (·.pattern.ignores) := by
  rcases rules with ⟨layers⟩
  induction layers using List.reverseRecOn with
  | nil => rfl
  | append_singleton layers layer induction =>
      have together : anchored ⟨layers ++ [layer]⟩ = anchored ⟨layers⟩ ++ layer.anchored := by
        simp [anchored]
      rw [decision?_concat, induction, layer.decide_eq, together, lastApplying?_append,
        Option.map_or]

/-! ## Adding lines -/

private theorem anchored_push (rules : Rules) (base : String) (patterns : List Pattern)
    (source : String) :
    (rules.push base patterns source).anchored =
      rules.anchored ++ patterns.map (Anchored.mk base) := by
  unfold push
  by_cases silent : patterns.isEmpty = true
  · rw [if_pos silent, List.isEmpty_iff.mp silent, List.map_nil, List.append_nil]
  · rw [if_neg silent]
    simp [anchored, Layer.anchored]

/-- Rules with some more layers, each of higher precedence than those before. -/
def addAll (rules : Rules) : List Addition → Reported PatternError Rules
  | [] => pure rules
  | addition :: rest => do
      let extended ← rules.withLines addition.base addition.lines addition.source
      extended.addAll rest

private theorem outcome_addAll (rules : Rules) {additions : List Addition}
    (valid : ∀ addition ∈ additions, addition.IsValid) :
    ∃ extended, (rules.addAll additions).outcome = .ok extended ∧
      extended.anchored = rules.anchored ++ additions.flatMap Addition.anchored := by
  induction additions generalizing rules with
  | nil => exact ⟨rules, rfl, (List.append_nil _).symm⟩
  | cons addition rest induction =>
      rcases List.forall_mem_cons.mp valid with ⟨firstValid, restValid⟩
      rcases induction (rules.push addition.base (patternsOf addition.lines) addition.source)
        restValid with ⟨extended, succeeded, together⟩
      refine ⟨extended, Reported.outcome_bind_eq_ok_iff.mpr
        ⟨_, outcome_withLines_eq_push rules _ _ firstValid, succeeded⟩, ?_⟩
      rw [together, anchored_push, List.flatMap_cons, List.append_assoc]
      rfl

end Rules

/-! ## Lines that make no difference -/

/-- Whether a line has nothing before its first `#` but white space. -/
def isSilent (line : Coded) : Bool :=
  (line.dropWhile Code.isBlank).head?.all (· == .char '#')

private theorem isBlank_of_isLineEnd {code : Code} (isEnd : isLineEnd code = true) :
    code.isBlank = true := by
  rw [isLineEnd, decide_eq_true_eq] at isEnd
  rcases isEnd with rfl | rfl <;> decide

private theorem trimLine_of_isSilent {line : Coded} (silent : isSilent line = true) :
    trimLine (dropLineEnds line) = [] ∨
      (trimLine (dropLineEnds line)).head? = some (.char '#') := by
  rcases Text.exists_dropEndWhile_append isLineEnd line with ⟨ends, areEnds, equal⟩
  have blank : ∀ code ∈ ends, code.isBlank = true := fun code member =>
    isBlank_of_isLineEnd (areEnds code member)
  rw [← dropLineEnds] at equal
  rw [isSilent, equal, Text.head?_dropWhile_append _ blank] at silent
  unfold trimLine Coded.trim
  cases left : (dropLineEnds line).dropWhile Code.isBlank with
  | nil =>
      apply Or.inl
      split <;> rfl
  | cons first rest =>
      have isComment : first = .char '#' := by simpa [left] using silent
      subst isComment
      apply Or.inr
      split
      · rfl
      · exact Text.head?_dropEndWhile_cons (by decide) rest

theorem compileLine_of_isSilent {line : Coded} (silent : isSilent line = true) :
    compileLine (dropLineEnds line) = .ok none := by
  unfold compileLine
  rcases trimLine_of_isSilent silent with isEmpty | isComment
  · simp [isEmpty]
  · simp [isComment]

namespace Addition

private theorem isValid_of_isSilent {addition : Addition}
    (silent : ∀ line ∈ addition.lines, isSilent line = true) : addition.IsValid := by
  intro line member
  rw [isReversed, compileLine_of_isSilent (silent line member)]

private theorem anchored_of_isSilent {addition : Addition}
    (silent : ∀ line ∈ addition.lines, isSilent line = true) : addition.anchored = [] := by
  have noPatterns : patternsOf addition.lines = [] := by
    rw [patternsOf, List.filterMap_eq_nil_iff]
    intro line member
    rw [pattern?, compileLine_of_isSilent (silent line member)]
  rw [anchored, noPatterns, List.map_nil]

private theorem anchored_append (base : String) (first second : List Coded)
    (source firstSource secondSource : String) :
    (Addition.mk base (first ++ second) source).anchored =
      (Addition.mk base first firstSource).anchored ++
        (Addition.mk base second secondSource).anchored := by
  simp [anchored, patternsOf]

end Addition

/-! ## One list of patterns -/

def decidesIgnored (all : List Anchored) (path : String) (isDirectory : Bool) : Bool :=
  (lastApplying? all path isDirectory).elim false (·.pattern.ignores)

theorem Rules.isIgnored_addAll {additions : List Addition}
    (valid : ∀ addition ∈ additions, addition.IsValid) :
    ∃ rules, (Rules.empty.addAll additions).outcome = .ok rules ∧
      ∀ path isDirectory, rules.isIgnored path isDirectory =
        decidesIgnored (additions.flatMap Addition.anchored) path isDirectory := by
  rcases Rules.empty.outcome_addAll valid with ⟨rules, succeeded, together⟩
  refine ⟨rules, succeeded, ?_⟩
  intro path isDirectory
  rw [isIgnored_eq_getD, decision?_eq, together, decidesIgnored]
  cases found : lastApplying? (additions.flatMap Addition.anchored) path isDirectory <;>
    simp [Rules.empty, Rules.anchored, found]

private theorem Rules.exists_alike {additions others : List Addition} {rules : Rules}
    (decides : ∀ path isDirectory, rules.isIgnored path isDirectory =
      decidesIgnored (additions.flatMap Addition.anchored) path isDirectory)
    (valid : ∀ addition ∈ others, addition.IsValid)
    (same : others.flatMap Addition.anchored = additions.flatMap Addition.anchored) :
    ∃ alike, (Rules.empty.addAll others).outcome = .ok alike ∧
      ∀ path isDirectory, alike.isIgnored path isDirectory = rules.isIgnored path isDirectory := by
  rcases Rules.isIgnored_addAll valid with ⟨alike, succeeded, alikeDecides⟩
  refine ⟨alike, succeeded, ?_⟩
  intro path isDirectory
  rw [alikeDecides, same, decides]

/-- Rules to which valid lines were added ignore a path exactly if the last of all their patterns
that applies to it does. Adding the lines for a directory in two parts, or others that are blank or
comments, changes no decision. -/
theorem isIgnored_eq_decidesIgnored {additions : List Addition}
    (valid : ∀ addition ∈ additions, addition.IsValid) :
    ∃ rules, (Rules.empty.addAll additions).outcome = .ok rules ∧
      (∀ path isDirectory, rules.isIgnored path isDirectory =
        decidesIgnored (additions.flatMap Addition.anchored) path isDirectory) ∧
      (∀ before base first second source firstSource secondSource after,
        additions = before ++ ⟨base, first ++ second, source⟩ :: after →
          ∃ split, (Rules.empty.addAll (before ++ ⟨base, first, firstSource⟩ ::
              ⟨base, second, secondSource⟩ :: after)).outcome = .ok split ∧
            ∀ path isDirectory, split.isIgnored path isDirectory =
              rules.isIgnored path isDirectory) ∧
      ∀ before silent after, additions = before ++ after →
        (∀ line ∈ silent.lines, isSilent line = true) →
          ∃ longer, (Rules.empty.addAll (before ++ silent :: after)).outcome = .ok longer ∧
            ∀ path isDirectory, longer.isIgnored path isDirectory =
              rules.isIgnored path isDirectory := by
  rcases Rules.isIgnored_addAll valid with ⟨rules, succeeded, decides⟩
  refine ⟨rules, succeeded, decides, ?_, ?_⟩
  · intro before base first second source firstSource secondSource after equal
    subst equal
    rw [List.forall_mem_append, List.forall_mem_cons] at valid
    rcases valid with ⟨beforeValid, wholeValid, afterValid⟩
    rcases List.forall_mem_append.mp wholeValid with ⟨firstValid, secondValid⟩
    have splitValid : ∀ addition ∈ before ++ ⟨base, first, firstSource⟩ ::
        ⟨base, second, secondSource⟩ :: after, addition.IsValid := by
      rw [List.forall_mem_append, List.forall_mem_cons, List.forall_mem_cons]
      exact ⟨beforeValid, firstValid, secondValid, afterValid⟩
    apply Rules.exists_alike decides splitValid
    simp [Addition.anchored_append base first second source firstSource secondSource]
  · intro before silent after equal isSilent
    subst equal
    rw [List.forall_mem_append] at valid
    have longerValid : ∀ addition ∈ before ++ silent :: after, addition.IsValid := by
      rw [List.forall_mem_append, List.forall_mem_cons]
      exact ⟨valid.1, Addition.isValid_of_isSilent isSilent, valid.2⟩
    apply Rules.exists_alike decides longerValid
    simp [Addition.anchored_of_isSilent isSilent]

def nestedAdditions : List Addition :=
  [⟨"", ["*.log", "# kept", "!keep.log"], ".gitignore"⟩,
    ⟨"src", ["keep.log", "x\\"], "src/.gitignore"⟩]

theorem isIgnored_eq_decidesIgnored_nestedAdditions :
    ∃ rules, (Rules.empty.addAll nestedAdditions).outcome = .ok rules ∧
      rules.isIgnored "src/keep.log" false = true ∧ rules.isIgnored "keep.log" false = false := by
  rcases isIgnored_eq_decidesIgnored (show ∀ addition ∈ nestedAdditions, addition.IsValid by
    decide +kernel) with ⟨rules, succeeded, decides, _⟩
  refine ⟨rules, succeeded, ?_, ?_⟩
  · rw [decides]
    decide +kernel
  · rw [decides]
    decide +kernel

end ImportAtlas.Ignore
