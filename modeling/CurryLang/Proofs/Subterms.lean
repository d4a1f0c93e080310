import CurryLang.Program

/-!
# What stands in a program

Properties of all names and of all expressions in a tree, down to the blocks of functions and
branches, and the parts of an expression that are evaluated with it.
-/

namespace CurryLang

/-! ## Names -/

mutual

/-- Every name that stands in the expression has the property. -/
def Expr.Names (P : String → Prop) : Expr → Prop
  | .ident x => P x
  | .int _ | .str _ | .bool _ | .nil => True
  | .array elements => Expr.NamesEach P elements
  | .unary _ operand => operand.Names P
  | .binary _ left right => left.Names P ∧ right.Names P
  | .ifThen condition consequence => condition.Names P ∧ Statement.NamesAll P consequence
  | .ifElse condition consequence alternative =>
    condition.Names P ∧ Statement.NamesAll P consequence ∧ Statement.NamesAll P alternative
  | .function parameters body => (∀ x ∈ parameters, P x) ∧ Statement.NamesAll P body
  | .call callee arguments => callee.Names P ∧ Expr.NamesEach P arguments
  | .index collection position => collection.Names P ∧ position.Names P
  | .assign x value => P x ∧ value.Names P

def Expr.NamesEach (P : String → Prop) : List Expr → Prop
  | [] => True
  | e :: es => e.Names P ∧ Expr.NamesEach P es

def Statement.Names (P : String → Prop) : Statement → Prop
  | .bind x value => P x ∧ value.Names P
  | .ret value => value.Names P
  | .expr value => value.Names P

def Statement.NamesAll (P : String → Prop) : List Statement → Prop
  | [] => True
  | s :: rest => s.Names P ∧ Statement.NamesAll P rest

end

mutual

theorem Expr.names_of_forall {P : String → Prop} (h : ∀ x, P x) : (e : Expr) → e.Names P
  | .ident x => h x
  | .int _ | .str _ | .bool _ | .nil => trivial
  | .array es => Expr.namesEach_of_forall h es
  | .unary _ e => e.names_of_forall h
  | .binary _ l r => ⟨l.names_of_forall h, r.names_of_forall h⟩
  | .ifThen e b => ⟨e.names_of_forall h, Statement.namesAll_of_forall h b⟩
  | .ifElse e a b =>
    ⟨e.names_of_forall h, Statement.namesAll_of_forall h a, Statement.namesAll_of_forall h b⟩
  | .function _ b => ⟨fun x _ => h x, Statement.namesAll_of_forall h b⟩
  | .call f es => ⟨f.names_of_forall h, Expr.namesEach_of_forall h es⟩
  | .index a i => ⟨a.names_of_forall h, i.names_of_forall h⟩
  | .assign x e => ⟨h x, e.names_of_forall h⟩

theorem Expr.namesEach_of_forall {P : String → Prop} (h : ∀ x, P x) :
    (es : List Expr) → Expr.NamesEach P es
  | [] => trivial
  | e :: es => ⟨e.names_of_forall h, Expr.namesEach_of_forall h es⟩

theorem Statement.names_of_forall {P : String → Prop} (h : ∀ x, P x) :
    (s : Statement) → s.Names P
  | .bind x e => ⟨h x, e.names_of_forall h⟩
  | .ret e => e.names_of_forall h
  | .expr e => e.names_of_forall h

theorem Statement.namesAll_of_forall {P : String → Prop} (h : ∀ x, P x) :
    (ss : List Statement) → Statement.NamesAll P ss
  | [] => trivial
  | s :: ss => ⟨s.names_of_forall h, Statement.namesAll_of_forall h ss⟩

end

/-! ## Expressions -/

mutual

/-- Every expression in the expression has the property, itself included. -/
def Expr.all (p : Expr → Bool) : Expr → Bool
  | .ident x => p (.ident x)
  | .int n => p (.int n)
  | .str text => p (.str text)
  | .bool b => p (.bool b)
  | .nil => p .nil
  | .array elements => p (.array elements) && Expr.allEach p elements
  | .unary op operand => p (.unary op operand) && operand.all p
  | .binary op left right => p (.binary op left right) && (left.all p && right.all p)
  | .ifThen condition consequence =>
    p (.ifThen condition consequence) && (condition.all p && Statement.allEach p consequence)
  | .ifElse condition consequence alternative =>
    p (.ifElse condition consequence alternative) &&
      (condition.all p && (Statement.allEach p consequence && Statement.allEach p alternative))
  | .function parameters body => p (.function parameters body) && Statement.allEach p body
  | .call callee arguments =>
    p (.call callee arguments) && (callee.all p && Expr.allEach p arguments)
  | .index collection position =>
    p (.index collection position) && (collection.all p && position.all p)
  | .assign x value => p (.assign x value) && value.all p

def Expr.allEach (p : Expr → Bool) : List Expr → Bool
  | [] => true
  | e :: es => e.all p && Expr.allEach p es

def Statement.all (p : Expr → Bool) : Statement → Bool
  | .bind _ value => value.all p
  | .ret value => value.all p
  | .expr value => value.all p

def Statement.allEach (p : Expr → Bool) : List Statement → Bool
  | [] => true
  | s :: rest => s.all p && Statement.allEach p rest

end

section And

variable {p q : Expr → Bool}

mutual

theorem Expr.all_and : (e : Expr) →
    e.all (fun e => p e && q e) = (e.all p && e.all q)
  | .ident _ | .int _ | .str _ | .bool _ | .nil => rfl
  | .array es => by
    simp only [Expr.all, Expr.allEach_and es]
    ac_rfl
  | .unary _ e => by
    simp only [Expr.all, Expr.all_and e]
    ac_rfl
  | .binary _ l r => by
    simp only [Expr.all, Expr.all_and l, Expr.all_and r]
    ac_rfl
  | .ifThen e b => by
    simp only [Expr.all, Expr.all_and e, Statement.allEach_and b]
    ac_rfl
  | .ifElse e a b => by
    simp only [Expr.all, Expr.all_and e, Statement.allEach_and a, Statement.allEach_and b]
    ac_rfl
  | .function _ b => by
    simp only [Expr.all, Statement.allEach_and b]
    ac_rfl
  | .call f es => by
    simp only [Expr.all, Expr.all_and f, Expr.allEach_and es]
    ac_rfl
  | .index a i => by
    simp only [Expr.all, Expr.all_and a, Expr.all_and i]
    ac_rfl
  | .assign _ e => by
    simp only [Expr.all, Expr.all_and e]
    ac_rfl

theorem Expr.allEach_and : (es : List Expr) →
    Expr.allEach (fun e => p e && q e) es = (Expr.allEach p es && Expr.allEach q es)
  | [] => rfl
  | e :: es => by
    simp only [Expr.allEach, Expr.all_and e, Expr.allEach_and es]
    ac_rfl

theorem Statement.all_and : (s : Statement) →
    s.all (fun e => p e && q e) = (s.all p && s.all q)
  | .bind _ e => Expr.all_and e
  | .ret e => Expr.all_and e
  | .expr e => Expr.all_and e

theorem Statement.allEach_and : (ss : List Statement) →
    Statement.allEach (fun e => p e && q e) ss = (Statement.allEach p ss && Statement.allEach q ss)
  | [] => rfl
  | s :: ss => by
    simp only [Statement.allEach, Statement.all_and s, Statement.allEach_and ss]
    ac_rfl

end

end And

/-! ## Parts -/

def Statement.value : Statement → Expr
  | .bind _ value | .ret value | .expr value => value

/-- The expressions that are evaluated as parts of an expression. The body of a function is none. -/
def Expr.parts : Expr → List Expr
  | .ident _ | .int _ | .str _ | .bool _ | .nil | .function _ _ => []
  | .array elements => elements
  | .unary _ operand => [operand]
  | .binary _ left right => [left, right]
  | .ifThen condition consequence => condition :: consequence.map Statement.value
  | .ifElse condition consequence alternative =>
    condition :: (consequence.map Statement.value ++ alternative.map Statement.value)
  | .call callee arguments => callee :: arguments
  | .index collection position => [collection, position]
  | .assign _ value => [value]

section Parts

variable {p : Expr → Bool}

theorem Expr.allEach_iff {es : List Expr} : Expr.allEach p es = true ↔ ∀ e ∈ es, e.all p = true := by
  induction es with
  | nil => exact iff_of_true rfl nofun
  | cons e es ih => rw [Expr.allEach, Bool.and_eq_true, ih, List.forall_mem_cons]

theorem Statement.all_eq (s : Statement) : s.all p = s.value.all p := by
  cases s <;> rfl

theorem Statement.allEach_iff {ss : List Statement} :
    Statement.allEach p ss = true ↔ ∀ s ∈ ss, s.value.all p = true := by
  induction ss with
  | nil => exact iff_of_true rfl nofun
  | cons s ss ih => rw [Statement.allEach, Bool.and_eq_true, ih, List.forall_mem_cons, s.all_eq]

theorem Expr.all_of_mem_parts {e : Expr} (h : e.all p = true) : ∀ e' ∈ e.parts, e'.all p = true := by
  cases e with
  | ident _ | int _ | str _ | bool _ | nil | function _ _ => exact nofun
  | array es => exact Expr.allEach_iff.mp (Bool.and_eq_true_iff.mp h).2
  | unary _ e | assign _ e =>
    exact List.forall_mem_singleton.mpr (Bool.and_eq_true_iff.mp h).2
  | _ =>
    simp only [Expr.all, Bool.and_eq_true, Expr.allEach_iff, Statement.allEach_iff] at h
    simpa only [Expr.parts, List.forall_mem_cons, List.forall_mem_append, List.forall_mem_map,
      List.not_mem_nil, false_implies, implies_true, and_true] using h.2

end Parts

end CurryLang
