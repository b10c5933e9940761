import ODataAdapter.Proofs.Filter.Literal
import ODataAdapter.Proofs.Filter.Tree
import ODataAdapter.Proofs.Text.Classes

/-!
The grammar of filter expressions as a relation: how a tree may be written, apart from any way of
reading it. Levels count from `or`, the loosest, to primaries.
-/

namespace ODataAdapter.Filter

/-- Words that mean something else where an operand is expected. -/
def reservedWords : List String :=
  "not" :: literalWords

def IsFunctionName (name : List Char) : Prop :=
  IsName name ∧ ∀ word ∈ reservedWords, name ≠ word.toList

def IsFieldPath (path : List Char) : Prop :=
  IsPath path ∧ ∀ word ∈ reservedWords, path.takeWhile (· ≠ '/') ≠ word.toList

theorem isFieldPath_of_path? {path : List Char} (whole : path? path = some (path, []))
    (free : ∀ word ∈ reservedWords, path.takeWhile (· ≠ '/') ≠ word.toList) : IsFieldPath path :=
  ⟨isPath_of_path? whole, free⟩

theorem isLiteral_of_literal? {text : List Char} (whole : literal? text = some (text, []))
    (noMark : keyword? "not" text = none) : IsLiteral text :=
  (literal?_eq_some whole).2.2 noMark

def IsGapRun (text : List Char) : Prop :=
  ∀ char ∈ text, isGap char = true

inductive Listed : List (List Char) → List Char → Prop
  | none : Listed [] []
  | last (text : List Char) : Listed [text] text
  | more {text next rest gap gap' : List Char} {texts : List (List Char)} :
      IsGapRun gap → IsGapRun gap' → Listed (next :: texts) rest →
        Listed (text :: next :: texts) (text ++ gap ++ ',' :: gap' ++ rest)

def primaryLevel : Nat := 5

/-- A text writes a tree at a level, where the operators of the level and of tighter ones stand
bare. -/
inductive Writes : Nat → Expr → List Char → Prop
  | binary {op : Operator} {left right : Expr} {text text' gap gap' : List Char} :
      Writes op.precedence left text → Writes (op.precedence + 1) right text' →
        IsGapRun gap → IsGapRun gap' → Apart (text ++ gap) op.token.toList →
          Apart op.token.toList (gap' ++ text') →
            Writes op.precedence (.binary op left right)
              (text ++ gap ++ op.token.toList ++ gap' ++ text')
  | tighter {level : Nat} {expr : Expr} {text : List Char} :
      Writes (level + 1) expr text → Writes level expr text
  | group {expr : Expr} {text gap gap' : List Char} :
      Writes 0 expr text → IsGapRun gap → IsGapRun gap' →
        Writes primaryLevel expr ('(' :: gap ++ text ++ gap' ++ [')'])
  | literal {text : String} :
      IsLiteral text.toList → Writes primaryLevel (.literal text) text.toList
  | property {name : String} :
      IsFieldPath name.toList → Writes primaryLevel (.property name) name.toList
  | call {name : String} {args : List (Expr × List Char)} {text gap gap' gap'' : List Char} :
      IsFunctionName name.toList → (∀ arg ∈ args, Writes 0 arg.1 arg.2) →
        Listed (args.map Prod.snd) text → IsGapRun gap → IsGapRun gap' → IsGapRun gap'' →
          Writes primaryLevel (.call name (args.map Prod.fst))
            (name.toList ++ gap ++ '(' :: gap' ++ text ++ gap'' ++ [')'])

namespace Expr

def SpelledNode : Expr → Prop
  | call name _ => IsFunctionName name.toList
  | literal text => IsLiteral text.toList
  | property name => IsFieldPath name.toList
  | _ => True

def WellSpelled (expr : Expr) : Prop :=
  expr.Everywhere SpelledNode

end Expr

theorem Writes.everywhere {holds : Expr → Prop} {level : Nat} {expr : Expr} {text : List Char}
    (binaries : ∀ op left right, holds (.binary op left right))
    (literals : ∀ text : String, IsLiteral text.toList → holds (.literal text))
    (properties : ∀ name : String, IsFieldPath name.toList → holds (.property name))
    (calls : ∀ (name : String) args, IsFunctionName name.toList → holds (.call name args))
    (written : Writes level expr text) : expr.Everywhere holds := by
  induction written with
  | binary _ _ _ _ _ _ ihLeft ihRight => exact ⟨binaries _ _ _, ihLeft, ihRight⟩
  | tighter _ ih => exact ih
  | group _ _ _ ih => exact ih
  | literal spelled => exact literals _ spelled
  | property spelled => exact properties _ spelled
  | call named _ _ _ _ _ ih =>
      refine ⟨calls _ _ named, (Expr.allEverywhere_iff _ _).2 fun arg member => ?_⟩
      obtain ⟨pair, pairMember, rfl⟩ := List.mem_map.1 member
      exact ih pair pairMember

theorem Writes.wellSpelled {level : Nat} {expr : Expr} {text : List Char}
    (written : Writes level expr text) : expr.WellSpelled :=
  written.everywhere (fun _ _ _ => trivial) (fun _ spelled => spelled) (fun _ spelled => spelled)
    (fun _ _ named => named)

theorem Writes.convertFree {level : Nat} {expr : Expr} {text : List Char}
    (written : Writes level expr text) : expr.ConvertFree :=
  written.everywhere (fun _ _ _ => rfl) (fun _ _ => rfl) (fun _ _ => rfl) (fun _ _ _ => rfl)

theorem Writes.loosen {level lower : Nat} {expr : Expr} {text : List Char}
    (written : Writes level expr text) (below : lower ≤ level) : Writes lower expr text := by
  induction below with
  | refl => exact written
  | step _ ih => exact ih written.tighter

end ODataAdapter.Filter
