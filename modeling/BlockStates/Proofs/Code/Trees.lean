import BlockStates.Proofs.Lexical.Parts

/-!
# Token trees

Code as its brackets nest it.  Blanks and comments are left out.  Two marks that
make an operator are kept as one, but only if they stand side by side: the halves
of an operator do not stand alone in any unit, and a text where they do has no
trees.
-/

set_option autoImplicit false

namespace BlockStates.Code

open Lexical

inductive Tree where
  /-- A name or a keyword. -/
  | word (text : String)
  | number (text : String)
  | mark (character : Char)
  | operator (first second : Char)
  | literal (text : String)
  | lifetime (text : String)
  /-- What stands inside of a bracket and the one that closes it. -/
  | group (opening : Char) (content : List Tree)
  deriving Repr

/-! ## From tokens to trees -/

def Tree.ofWord (text : String) : Tree :=
  if isNumeric text then .number text else .word text

/-- Trees of which the last ones may still be open. -/
structure Growth where
  /-- The brackets that are open, the innermost first, each with the trees in
  front of it. -/
  outer : List (Char × List Tree)
  /-- The trees behind the innermost bracket, the last one first. -/
  trees : List Tree
  /-- The first half of an operator. -/
  half : Option Char

namespace Growth

def empty : Growth :=
  ⟨[], [], none⟩

def push (growth : Growth) (tree : Tree) : Growth :=
  ⟨growth.outer, tree :: growth.trees, none⟩

def close (growth : Growth) (character : Char) : Option Growth :=
  match growth.outer with
  | [] => none
  | (opening, before) :: outer =>
    if closer? opening = some character then
      some ⟨outer, .group opening growth.trees.reverse :: before, none⟩
    else none

def mark (growth : Growth) (character : Char) : Option Growth :=
  if character ∈ [' ', '\n'] then some growth
  else if character ∈ [':', '=', '-'] then some { growth with half := some character }
  else if (closer? character).isSome then
    some ⟨(character, growth.trees) :: growth.outer, [], none⟩
  else if character ∈ [')', ']', '\x7d'] then growth.close character
  else some (growth.push (.mark character))

def step (growth : Growth) (token : Token) : Option Growth :=
  match growth.half, token with
  | some first, .mark second =>
    if (first, second) ∈ [(':', ':'), ('=', '>'), ('-', '>')] then
      some (growth.push (.operator first second))
    else none
  | some _, _ => none
  | none, .mark character => growth.mark character
  | none, .word text => some (growth.push (.ofWord text))
  | none, .literal text => some (growth.push (.literal text))
  | none, .lifetime text => some (growth.push (.lifetime text))
  | none, .lineComment _ | none, .blockComment _ => some growth

def run (growth : Growth) (tokens : List Token) : Option Growth :=
  tokens.foldlM step growth

theorem run_append (growth : Growth) (first second : List Token) :
    growth.run (first ++ second) = (growth.run first).bind fun between => between.run second :=
  List.foldlM_append

theorem run_cons (growth : Growth) (token : Token) (rest : List Token) :
    growth.run (token :: rest) = (growth.step token).bind fun next => next.run rest :=
  List.foldlM_cons

end Growth

def trees? (tokens : List Token) : Option (List Tree) :=
  match Growth.empty.run tokens with
  | some ⟨[], trees, none⟩ => some trees.reverse
  | _ => none

/-- Tokens that grow into these trees wherever they stand. -/
abbrev GrowsInto (tokens : List Token) (trees : List Tree) : Prop :=
  ∀ outer before, Growth.run ⟨outer, before, none⟩ tokens =
    some ⟨outer, trees.reverse ++ before, none⟩

abbrev Opens (tokens : List Token) (front : List Tree) (bracket : Char) : Prop :=
  ∀ outer before, Growth.run ⟨outer, before, none⟩ tokens =
    some ⟨(bracket, front.reverse ++ before) :: outer, [], none⟩

abbrev Closes (tokens : List Token) (bracket : Char) (behind : List Tree) : Prop :=
  ∀ outer before trees, Growth.run ⟨(bracket, before) :: outer, trees, none⟩ tokens =
    some ⟨outer, behind.reverse ++ .group bracket trees.reverse :: before, none⟩

namespace GrowsInto

variable {first second last : List Token} {firstTrees secondTrees front behind : List Tree}
  {bracket : Char}

theorem trees?_eq (grows : GrowsInto first firstTrees) : trees? first = some firstTrees := by
  rw [trees?, Growth.empty, grows]
  simp

theorem nil : GrowsInto [] [] :=
  fun _ _ => rfl

theorem append (firstGrows : GrowsInto first firstTrees)
    (secondGrows : GrowsInto second secondTrees) :
    GrowsInto (first ++ second) (firstTrees ++ secondTrees) := by
  intro outer before
  rw [Growth.run_append, firstGrows, Option.bind_some, secondGrows, List.reverse_append,
    List.append_assoc]

theorem opens (grows : GrowsInto first firstTrees) (opening : Opens second front bracket) :
    Opens (first ++ second) (firstTrees ++ front) bracket := by
  intro outer before
  rw [Growth.run_append, grows, Option.bind_some, opening, List.reverse_append,
    List.append_assoc]

/-- Tokens inside of a bracket. -/
theorem group (opening : Opens first front bracket) (inner : GrowsInto second secondTrees)
    (closing : Closes last bracket behind) :
    GrowsInto (first ++ second ++ last) (front ++ .group bracket secondTrees :: behind) := by
  intro outer before
  rw [Growth.run_append, Growth.run_append, opening, Option.bind_some, inner, Option.bind_some,
    closing, List.append_nil, List.reverse_reverse]
  simp

theorem parens (inner : GrowsInto first firstTrees) :
    GrowsInto (.mark '(' :: first ++ [.mark ')']) [.group '(' firstTrees] := by
  have opening : Opens [.mark '('] [] '(' := fun _ _ => rfl
  have closing : Closes [.mark ')'] '(' [] := fun _ _ _ => rfl
  exact group opening inner closing

theorem word {text : String} (isName : isNumeric text = false) :
    GrowsInto [.word text] [.word text] := by
  intro outer before
  simp [Growth.run, Growth.step, Growth.push, Tree.ofWord, isName]

theorem number {text : String} (isNumber : isNumeric text = true) :
    GrowsInto [.word text] [.number text] := by
  intro outer before
  simp [Growth.run, Growth.step, Growth.push, Tree.ofWord, isNumber]

theorem literal (text : String) : GrowsInto [.literal text] [.literal text] :=
  fun _ _ => rfl

theorem comment (text : String) : GrowsInto [.lineComment text] [] :=
  fun _ _ => rfl

theorem flatMap {Item : Type} {items : List Item} {tokensFor : Item → List Token}
    {treesFor : Item → List Tree}
    (each : ∀ item ∈ items, GrowsInto (tokensFor item) (treesFor item)) :
    GrowsInto (items.flatMap tokensFor) (items.flatMap treesFor) := by
  induction items with
  | nil => exact nil
  | cons item rest restGrow =>
    obtain ⟨grows, restEach⟩ := List.forall_mem_cons.mp each
    exact grows.append (restGrow restEach)

theorem intercalate {Item : Type} {items : List Item} {tokensFor : Item → List Token}
    {treesFor : Item → List Tree} {marks : List Token} {separator : List Tree}
    (parts : GrowsInto marks separator)
    (each : ∀ item ∈ items, GrowsInto (tokensFor item) (treesFor item)) :
    GrowsInto (marks.intercalate (items.map tokensFor))
      (separator.intercalate (items.map treesFor)) := by
  induction items with
  | nil => exact nil
  | cons item rest restGrow =>
    obtain ⟨grows, restEach⟩ := List.forall_mem_cons.mp each
    cases rest with
    | nil => simpa using grows
    | cons next later =>
      have whole := (grows.append parts).append (restGrow restEach)
      rw [List.map_cons, List.map_cons, List.map_cons, List.map_cons,
        List.intercalate_cons_cons, List.intercalate_cons_cons]
      exact whole

end GrowsInto

/-! ## Parts between commas -/

/-- The parts of a list between its commas.  The last part may have a comma
behind it. -/
def parts : List Tree → List (List Tree)
  | [] => []
  | .mark ',' :: rest => [] :: parts rest
  | tree :: rest =>
    match parts rest with
    | [] => [[tree]]
    | first :: others => (tree :: first) :: others

structure IsPart (trees : List Tree) : Prop where
  nonempty : trees ≠ []
  noComma : Tree.mark ',' ∉ trees

theorem parts_cons {tree : Tree} (noComma : Tree.mark ',' ≠ tree) (rest : List Tree) :
    parts (tree :: rest) = ((tree :: (parts rest).head?.getD []) :: (parts rest).tail) := by
  rw [parts]
  · cases parts rest <;> rfl
  · exact fun isComma => noComma isComma.symm

theorem parts_append_comma {trees : List Tree} (noComma : Tree.mark ',' ∉ trees)
    (rest : List Tree) : parts (trees ++ .mark ',' :: rest) = trees :: parts rest := by
  induction trees with
  | nil => rfl
  | cons tree trees restParts =>
    rw [List.cons_append, parts_cons (List.ne_of_not_mem_cons noComma),
      restParts (List.not_mem_of_not_mem_cons noComma)]
    rfl

namespace IsPart

variable {Item : Type} {items : List Item} {treesFor : Item → List Tree}

theorem parts_eq {trees : List Tree} (isPart : IsPart trees) : parts trees = [trees] := by
  obtain ⟨nonempty, noComma⟩ := isPart
  induction trees with
  | nil => exact absurd rfl nonempty
  | cons tree rest restParts =>
    rw [parts_cons (List.ne_of_not_mem_cons noComma)]
    cases rest with
    | nil => rfl
    | cons next others =>
      rw [restParts (List.cons_ne_nil _ _) (List.not_mem_of_not_mem_cons noComma)]
      rfl

/-- Items with a comma behind each of them. -/
theorem parts_flatMap (each : ∀ item ∈ items, IsPart (treesFor item)) :
    parts (items.flatMap fun item => treesFor item ++ [.mark ',']) = items.map treesFor := by
  induction items with
  | nil => rfl
  | cons item rest restParts =>
    obtain ⟨isPart, restEach⟩ := List.forall_mem_cons.mp each
    rw [List.flatMap_cons, List.append_assoc, List.singleton_append,
      parts_append_comma isPart.noComma, restParts restEach]
    rfl

/-- Items with commas between them. -/
theorem parts_intercalate (each : ∀ item ∈ items, IsPart (treesFor item)) :
    parts ([.mark ','].intercalate (items.map treesFor)) = items.map treesFor := by
  induction items with
  | nil => rfl
  | cons item rest restParts =>
    obtain ⟨isPart, restEach⟩ := List.forall_mem_cons.mp each
    cases rest with
    | nil => simpa using isPart.parts_eq
    | cons next later =>
      rw [List.map_cons, List.map_cons, List.intercalate_cons_cons, List.append_assoc,
        List.singleton_append, parts_append_comma isPart.noComma, ← List.map_cons,
        restParts restEach]

end IsPart

end BlockStates.Code
