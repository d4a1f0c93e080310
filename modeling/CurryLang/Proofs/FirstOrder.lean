import CurryLang.Proofs.Correspondence

/-!
# First-order values

Integers, strings, booleans, `nil` and arrays of these can be compared across sessions: `Datum` is
such a value without the numbers of its objects, and `Value.data?` is `none` for every value with a
function in it. Corresponding values have the same data, and values with the same data are equal.

States are alike below `n` when they have printed the same and their first `n` scopes hold the same
names and the same data.
-/

namespace CurryLang

/-- A value without functions and without the numbers of objects. -/
inductive Datum where
  | int (value : Int64)
  | str (text : String)
  | bool (value : Bool)
  | nil
  | array (elements : List Datum)

namespace Value

mutual

/-- The data of a value, if no function is part of it. -/
def data? : Value → Option Datum
  | int n => some (.int n)
  | str _ text => some (.str text)
  | bool b => some (.bool b)
  | nil => some .nil
  | array _ elements => (dataEach? elements).map .array
  | _ => none

/-- The data of the values of a list, if no function is part of any of them. -/
def dataEach? : List Value → Option (List Datum)
  | [] => some []
  | v :: vs => v.data?.bind fun d => (dataEach? vs).map (d :: ·)

end

theorem dataEach?_eq {vs ws : List Value} (hlength : vs.length = ws.length)
    (h : ∀ v w, (v, w) ∈ vs.zip ws → v.data? = w.data?) : dataEach? vs = dataEach? ws := by
  induction vs generalizing ws with
  | nil =>
    cases ws with
    | nil => rfl
    | cons w ws => cases hlength
  | cons v vs ih =>
    cases ws with
    | nil => cases hlength
    | cons w ws =>
      have hrest := ih (Nat.succ.inj hlength) fun a b hab => h a b (List.mem_cons_of_mem _ hab)
      show v.data?.bind _ = w.data?.bind _
      rw [h v w List.mem_cons_self, hrest]

theorem Like.data?_eq {P : Pairing} {v w : Value} (h : v.Like P w) : v.data? = w.data? := by
  induction h with
  | array _ hlength _ ih => exact congrArg (Option.map Datum.array) (dataEach?_eq hlength ih)
  | _ => rfl

section Contents

variable {v : Value} {vs : List Value} {d : Datum} {ds : List Datum}

theorem data?_eq_some_iff : v.data? = some d ↔
    match d with
    | .int n => v = .int n
    | .str text => ∃ id, v = .str id text
    | .bool b => v = .bool b
    | .nil => v = .nil
    | .array ds => ∃ id vs, v = .array id vs ∧ dataEach? vs = some ds := by
  cases v <;> cases d <;> simp [data?]

theorem dataEach?_eq_nil_iff : dataEach? vs = some [] ↔ vs = [] := by
  cases vs with
  | nil => simp [dataEach?]
  | cons => simp [dataEach?, Option.bind_eq_some_iff]

theorem dataEach?_eq_cons_iff : dataEach? vs = some (d :: ds) ↔
    ∃ w ws, vs = w :: ws ∧ w.data? = some d ∧ dataEach? ws = some ds := by
  cases vs with
  | nil => simp [dataEach?]
  | cons => simp [dataEach?, Option.bind_eq_some_iff]

mutual

theorem equal_of_data? : (d : Datum) → {v w : Value} → v.data? = some d → w.data? = some d →
    v.equal w = true
  | .int _, _, _, hv, hw => by
    obtain rfl := data?_eq_some_iff.mp hv
    obtain rfl := data?_eq_some_iff.mp hw
    simp [equal, identical]
  | .str _, _, _, hv, hw => by
    obtain ⟨_, rfl⟩ := data?_eq_some_iff.mp hv
    obtain ⟨_, rfl⟩ := data?_eq_some_iff.mp hw
    simp [equal]
  | .bool _, _, _, hv, hw => by
    obtain rfl := data?_eq_some_iff.mp hv
    obtain rfl := data?_eq_some_iff.mp hw
    simp [equal, identical]
  | .nil, _, _, hv, hw => by
    obtain rfl := data?_eq_some_iff.mp hv
    obtain rfl := data?_eq_some_iff.mp hw
    rfl
  | .array ds, _, _, hv, hw => by
    obtain ⟨_, _, rfl, hvs⟩ := data?_eq_some_iff.mp hv
    obtain ⟨_, _, rfl, hws⟩ := data?_eq_some_iff.mp hw
    exact equalEach_of_dataEach? ds hvs hws

theorem equalEach_of_dataEach? : (ds : List Datum) → {vs ws : List Value} →
    dataEach? vs = some ds → dataEach? ws = some ds → equalEach vs ws = true
  | [], _, _, hvs, hws => by
    rw [dataEach?_eq_nil_iff.mp hvs, dataEach?_eq_nil_iff.mp hws]
    rfl
  | d :: ds, _, _, hvs, hws => by
    obtain ⟨v, vs, rfl, hv, hvs⟩ := dataEach?_eq_cons_iff.mp hvs
    obtain ⟨w, ws, rfl, hw, hws⟩ := dataEach?_eq_cons_iff.mp hws
    rw [equalEach, equal_of_data? d hv hw, equalEach_of_dataEach? ds hvs hws]
    rfl

end

end Contents

end Value

/-- The states have printed the same, and their first `n` scopes hold the same names and the same
data. -/
structure State.Alike (n : Nat) (σ τ : State) : Prop where
  printed : σ.printed = τ.printed
  names : ∀ i < n, ∀ x, σ.store.holds i x = τ.store.holds i x
  data : ∀ i < n, ∀ x,
    (σ.store.get? i x).bind Value.data? = (τ.store.get? i x).bind Value.data?

namespace State.Alike

variable {n m : Nat} {σ τ υ : State}

/-- Nothing else of a state is seen. -/
theorem of_eq (hprinted : σ.printed = τ.printed) (hstore : σ.store = τ.store) : σ.Alike n τ where
  printed := hprinted
  names i _ x := by rw [hstore]
  data i _ x := by rw [hstore]

theorem trans (h : σ.Alike n τ) (k : τ.Alike n υ) : σ.Alike n υ where
  printed := h.printed.trans k.printed
  names i hi x := (h.names i hi x).trans (k.names i hi x)
  data i hi x := (h.data i hi x).trans (k.data i hi x)

theorem mono (h : σ.Alike m τ) (hnm : n ≤ m) : σ.Alike n τ where
  printed := h.printed
  names i hi := h.names i (Nat.lt_of_lt_of_le hi hnm)
  data i hi := h.data i (Nat.lt_of_lt_of_le hi hnm)

/-- States are alike when corresponding values stand in their first `n` scopes. -/
theorem of_slots {P : Pairing} (hprinted : σ.printed = τ.printed)
    (h : ∀ i < n, ∀ x, Option.Rel (Value.Like P) (σ.store.get? i x) (τ.store.get? i x)) :
    σ.Alike n τ where
  printed := hprinted
  names i hi x := by
    have hslot := h i hi x
    rw [Store.holds_eq_isSome_get?, Store.holds_eq_isSome_get?]
    generalize σ.store.get? i x = r, τ.store.get? i x = s at hslot
    cases hslot <;> rfl
  data i hi x := by
    have hslot := h i hi x
    generalize σ.store.get? i x = r, τ.store.get? i x = s at hslot
    cases hslot with
    | some hv => exact hv.data?_eq
    | none => rfl

end State.Alike

end CurryLang
