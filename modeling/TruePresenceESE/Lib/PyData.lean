import Mathlib

/-! # Plain Python data

What a loader of plain data builds: scalars, lists, tuples and dictionaries. A writer that
knows no tuples turns them into lists, at every depth.
-/

inductive FloatData where
  | finite (q : ℚ)
  | infinite (negative : Bool)
  | nan
  deriving DecidableEq

/-- `x <= 0`, which no comparison with a NaN is. -/
def FloatData.isNonpos : FloatData → Bool
  | .finite q => q ≤ 0
  | .infinite negative => negative
  | .nan => false

/-- A key of a dictionary: a text, or another value by what is shown of it. -/
inductive PyKey where
  | text (s : String)
  | other (shown : String)
  deriving DecidableEq

def PyKey.shown : PyKey → String
  | .text s => s
  | .other shown => shown

inductive PyData where
  | none
  | bool (b : Bool)
  | int (n : ℤ)
  | float (x : FloatData)
  | str (s : String)
  /-- Bytes, dates and sets, by what is shown of them, and whether they count as true. -/
  | other (shown : String) (truth : Bool)
  | list (items : List PyData)
  | tuple (items : List PyData)
  | dict (fields : List (PyKey × PyData))

namespace PyData

def isNone : PyData → Bool
  | .none => true
  | _ => false

def truthy : PyData → Bool
  | .none => false
  | .bool b => b
  | .int n => n ≠ 0
  | .float x => x ≠ .finite 0
  | .str s => s ≠ ""
  | .other _ truth => truth
  | .list items => !items.isEmpty
  | .tuple items => !items.isEmpty
  | .dict fields => !fields.isEmpty

/-! ## Induction -/

@[elab_as_elim] theorem data_induction {motive : PyData → Prop} (none : motive .none)
    (bool : ∀ b, motive (.bool b)) (int : ∀ n, motive (.int n)) (float : ∀ x, motive (.float x))
    (str : ∀ s, motive (.str s)) (other : ∀ shown truth, motive (.other shown truth))
    (list : ∀ items, (∀ value ∈ items, motive value) → motive (.list items))
    (tuple : ∀ items, (∀ value ∈ items, motive value) → motive (.tuple items))
    (dict : ∀ fields, (∀ p ∈ fields, motive p.2) → motive (.dict fields))
    (value : PyData) : motive value := by
  refine PyData.rec (motive_1 := motive) (motive_2 := fun items => ∀ value ∈ items, motive value)
    (motive_3 := fun fields => ∀ p ∈ fields, motive p.2) (motive_4 := fun p => motive p.2)
    none bool int float str other list tuple dict ?_ ?_ ?_ ?_ ?_ value
  · intro v hv
    exact absurd hv List.not_mem_nil
  · intro head tail hhead htail
    exact List.forall_mem_cons.mpr ⟨hhead, htail⟩
  · intro p hp
    exact absurd hp List.not_mem_nil
  · intro head tail hhead htail
    exact List.forall_mem_cons.mpr ⟨hhead, htail⟩
  · intro key v hv
    exact hv

/-! ## Tuples as lists -/

mutual

def relist : PyData → PyData
  | .list items => .list (relistItems items)
  | .tuple items => .list (relistItems items)
  | .dict fields => .dict (relistFields fields)
  | .none => .none
  | .bool b => .bool b
  | .int n => .int n
  | .float x => .float x
  | .str s => .str s
  | .other shown truth => .other shown truth

def relistItems : List PyData → List PyData
  | [] => []
  | value :: rest => relist value :: relistItems rest

def relistFields : List (PyKey × PyData) → List (PyKey × PyData)
  | [] => []
  | (key, value) :: rest => (key, relist value) :: relistFields rest

end

theorem relistItems_eq (items : List PyData) : relistItems items = items.map relist := by
  induction items with
  | nil => rfl
  | cons value rest ih => rw [relistItems, ih, List.map_cons]

theorem relistFields_eq (fields : List (PyKey × PyData)) :
    relistFields fields = fields.map fun p => (p.1, relist p.2) := by
  induction fields with
  | nil => rfl
  | cons p rest ih => rw [relistFields, ih, List.map_cons]

theorem relist_list (items : List PyData) : relist (.list items) = .list (items.map relist) := by
  rw [relist, relistItems_eq]

theorem relist_tuple (items : List PyData) : relist (.tuple items) = .list (items.map relist) := by
  rw [relist, relistItems_eq]

theorem relist_dict (fields : List (PyKey × PyData)) :
    relist (.dict fields) = .dict (fields.map fun p => (p.1, relist p.2)) := by
  rw [relist, relistFields_eq]

theorem relist_relist (value : PyData) : relist (relist value) = relist value := by
  induction value using data_induction with
  | none => simp only [relist]
  | bool b => simp only [relist]
  | int n => simp only [relist]
  | float x => simp only [relist]
  | str s => simp only [relist]
  | other shown truth => simp only [relist]
  | list items ih =>
      rw [relist_list, relist_list, List.map_map]
      exact congrArg PyData.list (List.map_congr_left ih)
  | tuple items ih =>
      rw [relist_tuple, relist_list, List.map_map]
      exact congrArg PyData.list (List.map_congr_left ih)
  | dict fields ih =>
      rw [relist_dict, relist_dict, List.map_map]
      refine congrArg PyData.dict (List.map_congr_left fun p hp => ?_)
      exact Prod.ext rfl (ih p hp)

/-! ## Writing and reading back -/

/-- What comes back of data once written: all but tuples stay what they are. -/
structure Carries (t : PyData → PyData) : Prop where
  none : t .none = .none
  bool : ∀ b, t (.bool b) = .bool b
  int : ∀ n, t (.int n) = .int n
  float : ∀ x, t (.float x) = .float x
  str : ∀ s, t (.str s) = .str s
  other : ∀ shown truth, t (.other shown truth) = .other shown truth
  list : ∀ items, t (.list items) = .list (items.map t)
  tuple : ∀ items, t (.tuple items) = .tuple (items.map t) ∨ t (.tuple items) = .list (items.map t)
  dict : ∀ fields, t (.dict fields) = .dict (fields.map fun p => (p.1, t p.2))
  again : ∀ value, t (t value) = t value

theorem carries_id : Carries id where
  none := rfl
  bool _ := rfl
  int _ := rfl
  float _ := rfl
  str _ := rfl
  other _ _ := rfl
  list _ := by rw [List.map_id]; rfl
  tuple _ := by rw [List.map_id]; exact .inl rfl
  dict _ := by simp
  again _ := rfl

theorem carries_relist : Carries relist where
  none := by rw [relist]
  bool _ := by rw [relist]
  int _ := by rw [relist]
  float _ := by rw [relist]
  str _ := by rw [relist]
  other _ _ := by rw [relist]
  list := relist_list
  tuple items := .inr (relist_tuple items)
  dict := relist_dict
  again := relist_relist

theorem Carries.isNone {t : PyData → PyData} (h : Carries t) (value : PyData) :
    (t value).isNone = value.isNone := by
  cases value with
  | none => rw [h.none]
  | bool b => rw [h.bool]
  | int n => rw [h.int]
  | float x => rw [h.float]
  | str s => rw [h.str]
  | other shown truth => rw [h.other]
  | list items => rw [h.list]; rfl
  | tuple items => rcases h.tuple items with heq | heq <;> rw [heq] <;> rfl
  | dict fields => rw [h.dict]; rfl

end PyData
