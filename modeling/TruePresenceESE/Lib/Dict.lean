import Mathlib

/-! # Insertion-ordered dictionaries

A dictionary is an association list whose keys are pairwise distinct by
construction. Writing an existing key keeps its position, writing a new key
appends it, so iteration order is insertion order. `groupBy` is the loop that
appends each element's value to the list stored under its key.
-/

structure Dict (κ : Type*) (α : Type*) where
  items : List (κ × α)
  nodup : (items.map Prod.fst).Nodup

namespace Dict

variable {κ α ι : Type*}

@[ext] theorem ext {d e : Dict κ α} (h : d.items = e.items) : d = e := by
  cases d
  cases e
  cases h
  rfl

def empty : Dict κ α := ⟨[], List.nodup_nil⟩

def keys (d : Dict κ α) : List κ := d.items.map Prod.fst

def values (d : Dict κ α) : List α := d.items.map Prod.snd

def size (d : Dict κ α) : Nat := d.items.length

@[simp] theorem items_empty : (empty : Dict κ α).items = [] := rfl

theorem keys_nodup (d : Dict κ α) : d.keys.Nodup := d.nodup

variable [DecidableEq κ]

/-- The first (by construction the only) value stored under a key. -/
def lookupIn (k : κ) : List (κ × α) → Option α
  | [] => none
  | (k', v) :: rest => if k' = k then some v else lookupIn k rest

/-- Replace in place, or append when the key is absent. -/
def setIn (k : κ) (v : α) : List (κ × α) → List (κ × α)
  | [] => [(k, v)]
  | (k', v') :: rest => if k' = k then (k', v) :: rest else (k', v') :: setIn k v rest

theorem map_fst_setIn (k : κ) (v : α) (items : List (κ × α)) :
    (setIn k v items).map Prod.fst =
      if k ∈ items.map Prod.fst then items.map Prod.fst else items.map Prod.fst ++ [k] := by
  induction items with
  | nil => simp [setIn]
  | cons p rest ih =>
      obtain ⟨k', v'⟩ := p
      by_cases h : k' = k
      · simp [setIn, h]
      · have h' : k ≠ k' := Ne.symm h
        simp only [setIn, if_neg h, List.map_cons, ih, List.mem_cons, h', false_or]
        split <;> simp

theorem nodup_setIn {k : κ} {v : α} {items : List (κ × α)}
    (h : (items.map Prod.fst).Nodup) : ((setIn k v items).map Prod.fst).Nodup := by
  rw [map_fst_setIn]
  split
  · exact h
  next hk => exact List.nodup_append.mpr ⟨h, List.nodup_singleton k, by
      intro a ha b hb hab
      rw [List.mem_singleton.mp hb] at hab
      exact hk (hab ▸ ha)⟩

theorem lookupIn_setIn (k k' : κ) (v : α) (items : List (κ × α)) :
    lookupIn k' (setIn k v items) = if k = k' then some v else lookupIn k' items := by
  induction items with
  | nil => simp [setIn, lookupIn]
  | cons p rest ih =>
      obtain ⟨j, w⟩ := p
      by_cases hj : j = k
      · subst hj
        by_cases hk : j = k' <;> simp [setIn, lookupIn, hk]
      · by_cases hk : j = k'
        · subst hk
          simp [setIn, lookupIn, hj, Ne.symm hj]
        · simp [setIn, lookupIn, hj, hk, ih]

theorem lookupIn_eq_none {k : κ} {items : List (κ × α)} :
    lookupIn k items = none ↔ k ∉ items.map Prod.fst := by
  induction items with
  | nil => simp [lookupIn]
  | cons p rest ih =>
      obtain ⟨j, w⟩ := p
      by_cases hj : j = k
      · simp [lookupIn, hj]
      · have hj' : k ≠ j := Ne.symm hj
        simp [lookupIn, hj, hj', ih]

theorem mem_of_lookupIn {k : κ} {v : α} {items : List (κ × α)}
    (h : lookupIn k items = some v) : (k, v) ∈ items := by
  induction items with
  | nil => simp [lookupIn] at h
  | cons p rest ih =>
      obtain ⟨j, w⟩ := p
      simp only [lookupIn] at h
      split at h
      next hj => simp_all
      next => exact List.mem_cons_of_mem _ (ih h)

theorem lookupIn_of_mem {k : κ} {v : α} {items : List (κ × α)}
    (hn : (items.map Prod.fst).Nodup) (h : (k, v) ∈ items) : lookupIn k items = some v := by
  induction items with
  | nil => simp at h
  | cons p rest ih =>
      obtain ⟨j, w⟩ := p
      simp only [List.map_cons, List.nodup_cons] at hn
      rcases List.mem_cons.mp h with heq | hmem
      · cases heq
        simp [lookupIn]
      · have hk : k ∈ rest.map Prod.fst := List.mem_map_of_mem (f := Prod.fst) hmem
        have hj : j ≠ k := fun e => hn.1 (e ▸ hk)
        simp [lookupIn, hj, ih hn.2 hmem]

/-- Writing a value that is above the one it replaces lifts the entries. -/
theorem sublistForall₂_setIn {R : κ × α → κ × α → Prop} (hrefl : ∀ p, R p p) {k : κ} {v : α}
    {items : List (κ × α)} (hold : ∀ w, lookupIn k items = some w → R (k, w) (k, v)) :
    List.SublistForall₂ R items (setIn k v items) := by
  induction items with
  | nil => exact .nil
  | cons p rest ih =>
      obtain ⟨j, w⟩ := p
      by_cases h : j = k
      · subst h
        simp only [setIn, if_pos]
        have hrest : List.SublistForall₂ R rest rest := List.sublistForall₂_iff.mpr
          ⟨rest, List.forall₂_same.mpr fun p _ => hrefl p, List.Sublist.refl _⟩
        exact .cons (hold w (by simp [lookupIn])) hrest
      · simp only [setIn, if_neg h]
        exact .cons (hrefl _) (ih fun w hw => hold w (by simpa [lookupIn, h] using hw))

/-! ## Reading and writing -/

def get? (d : Dict κ α) (k : κ) : Option α := lookupIn k d.items

def set (d : Dict κ α) (k : κ) (v : α) : Dict κ α := ⟨setIn k v d.items, nodup_setIn d.nodup⟩

/-- The loop `for k, v in items: d[k] = v`. -/
def update (d : Dict κ α) (items : List (κ × α)) : Dict κ α :=
  items.foldl (fun acc p => acc.set p.1 p.2) d

/-- `del d[k]` -/
def erase (d : Dict κ α) (k : κ) : Dict κ α :=
  ⟨d.items.filter (·.1 ≠ k), d.nodup.sublist (List.filter_sublist.map Prod.fst)⟩

@[simp] theorem get?_empty (k : κ) : (empty : Dict κ α).get? k = none := rfl

theorem get?_set (d : Dict κ α) (k k' : κ) (v : α) :
    (d.set k v).get? k' = if k = k' then some v else d.get? k' :=
  lookupIn_setIn k k' v d.items

@[simp] theorem get?_set_self (d : Dict κ α) (k : κ) (v : α) : (d.set k v).get? k = some v := by
  simp [get?_set]

theorem get?_set_ne (d : Dict κ α) {k k' : κ} (v : α) (h : k ≠ k') :
    (d.set k v).get? k' = d.get? k' := by
  simp [get?_set, h]

theorem get?_eq_some_iff {d : Dict κ α} {k : κ} {v : α} :
    d.get? k = some v ↔ (k, v) ∈ d.items :=
  ⟨mem_of_lookupIn, lookupIn_of_mem d.nodup⟩

theorem get?_eq_none_iff {d : Dict κ α} {k : κ} : d.get? k = none ↔ k ∉ d.keys :=
  lookupIn_eq_none

theorem keys_set (d : Dict κ α) (k : κ) (v : α) :
    (d.set k v).keys = if k ∈ d.keys then d.keys else d.keys ++ [k] :=
  map_fst_setIn k v d.items

theorem mem_keys_set {d : Dict κ α} {k k' : κ} {v : α} :
    k' ∈ (d.set k v).keys ↔ k' = k ∨ k' ∈ d.keys := by
  rw [keys_set]
  split
  next hk =>
    constructor
    · exact Or.inr
    · rintro (rfl | h)
      · exact hk
      · exact h
  next => simp [or_comm]

/-- A bulk write leaves every key outside the written ones alone. -/
theorem get?_update_of_notMem (d : Dict κ α) (items : List (κ × α)) {k : κ}
    (h : k ∉ items.map Prod.fst) : (d.update items).get? k = d.get? k := by
  induction items generalizing d with
  | nil => rfl
  | cons p rest ih =>
      simp only [List.map_cons, List.mem_cons, not_or] at h
      have hrec := ih (d.set p.1 p.2) h.2
      rw [get?_set_ne d p.2 (Ne.symm h.1)] at hrec
      exact hrec

/-- Where the written keys are distinct, the written value is read back. -/
theorem get?_update_of_mem (d : Dict κ α) {items : List (κ × α)} {k : κ} {v : α}
    (hn : (items.map Prod.fst).Nodup) (h : (k, v) ∈ items) :
    (d.update items).get? k = some v := by
  induction items generalizing d with
  | nil => simp at h
  | cons p rest ih =>
      simp only [List.map_cons, List.nodup_cons] at hn
      rcases List.mem_cons.mp h with rfl | hmem
      · have hrest := get?_update_of_notMem (d.set k v) rest hn.1
        rw [get?_set_self] at hrest
        exact hrest
      · exact ih (d.set p.1 p.2) hn.2 hmem

theorem update_append (d : Dict κ α) (left right : List (κ × α)) :
    (d.update left).update right = d.update (left ++ right) := List.foldl_append.symm

/-- A dictionary written from distinct keys holds just what was written. -/
theorem get?_update_empty_iff {items : List (κ × α)} (hn : (items.map Prod.fst).Nodup) {k : κ}
    {v : α} : (empty.update items).get? k = some v ↔ (k, v) ∈ items := by
  refine ⟨fun hget => ?_, get?_update_of_mem empty hn⟩
  have hmem : k ∈ items.map Prod.fst := by
    by_contra hnot
    rw [get?_update_of_notMem empty items hnot] at hget
    cases hget
  obtain ⟨⟨k', w⟩, hw, rfl⟩ := List.mem_map.mp hmem
  rw [get?_update_of_mem empty hn hw, Option.some.injEq] at hget
  exact hget ▸ hw

theorem get?_mapValues {β : Type*} (d : Dict κ α) (f : α → β) (k : κ) :
    (d.items.foldl (fun e p => e.set p.1 (f p.2)) empty).get? k = (d.get? k).map f := by
  have hupdate : d.items.foldl (fun e p => e.set p.1 (f p.2)) empty =
      empty.update (d.items.map fun p => (p.1, f p.2)) := by
    rw [update, List.foldl_map]
  have hnodup : ((d.items.map fun p => (p.1, f p.2)).map Prod.fst).Nodup := by
    rw [List.map_map]
    exact d.nodup
  rw [hupdate]
  ext v
  rw [get?_update_empty_iff hnodup, Option.map_eq_some_iff, List.mem_map]
  constructor
  · rintro ⟨⟨k', w⟩, hw, heq⟩
    rw [Prod.mk.injEq] at heq
    obtain ⟨rfl, rfl⟩ := heq
    exact ⟨w, get?_eq_some_iff.mpr hw, rfl⟩
  · rintro ⟨w, hw, rfl⟩
    exact ⟨(k, w), get?_eq_some_iff.mp hw, rfl⟩

/-! ## Loops that may raise -/

/-- The loop `for k, a in items: d[k] = f(k, a)` whose body may raise, or skip the write. -/
def updateM {ε β : Type*} (f : κ → α → Except ε (Option β)) :
    List (κ × α) → Dict κ β → Except ε (Dict κ β)
  | [], d => .ok d
  | (k, a) :: rest, d =>
      match f k a with
      | .error e => .error e
      | .ok none => updateM f rest d
      | .ok (some v) => updateM f rest (d.set k v)

section UpdateM

variable {ε β : Type*} {f : κ → α → Except ε (Option β)} {items : List (κ × α)}
  {d out : Dict κ β} {k : κ}

theorem get?_updateM_of_notMem (h : updateM f items d = .ok out)
    (hk : k ∉ items.map Prod.fst) : out.get? k = d.get? k := by
  induction items generalizing d with
  | nil =>
      cases h
      rfl
  | cons p rest ih =>
      obtain ⟨j, a⟩ := p
      simp only [List.map_cons, List.mem_cons, not_or] at hk
      rw [updateM] at h
      cases hf : f j a with
      | error e => simp [hf] at h
      | ok v =>
          cases v with
          | none =>
              rw [hf] at h
              exact ih h hk.2
          | some v =>
              rw [hf] at h
              rw [ih h hk.2, get?_set_ne d v (Ne.symm hk.1)]

/-- Under distinct keys the loop leaves under a key what its own step wrote there. -/
theorem get?_updateM_of_mem (hnodup : (items.map Prod.fst).Nodup)
    (h : updateM f items d = .ok out) {a : α} (hmem : (k, a) ∈ items) :
    ∃ v, f k a = .ok v ∧ out.get? k = v.or (d.get? k) := by
  induction items generalizing d with
  | nil => simp at hmem
  | cons p rest ih =>
      obtain ⟨j, b⟩ := p
      rw [List.map_cons, List.nodup_cons] at hnodup
      rw [updateM] at h
      cases hf : f j b with
      | error e => simp [hf] at h
      | ok v =>
          rw [hf] at h
          rcases List.mem_cons.mp hmem with heq | hrest
          · cases heq
            refine ⟨v, hf, ?_⟩
            cases v with
            | none => simpa using get?_updateM_of_notMem h hnodup.1
            | some v =>
                have hread := get?_updateM_of_notMem h hnodup.1
                rw [get?_set_self] at hread
                simpa using hread
          · have hkey : k ∈ rest.map Prod.fst := List.mem_map_of_mem (f := Prod.fst) hrest
            have hne : j ≠ k := fun heq => hnodup.1 (heq ▸ hkey)
            cases v with
            | none => exact ih hnodup.2 h hrest
            | some v =>
                obtain ⟨w, hw, hread⟩ := ih hnodup.2 h hrest
                rw [get?_set_ne d v hne] at hread
                exact ⟨w, hw, hread⟩

theorem exists_updateM (h : ∀ p ∈ items, ∃ v, f p.1 p.2 = .ok v) (d : Dict κ β) :
    ∃ out, updateM f items d = .ok out := by
  induction items generalizing d with
  | nil => exact ⟨d, rfl⟩
  | cons p rest ih =>
      rw [List.forall_mem_cons] at h
      obtain ⟨v, hv⟩ := h.1
      rw [updateM, hv]
      cases v with
      | none => exact ih h.2 d
      | some v => exact ih h.2 (d.set p.1 v)

end UpdateM

/-! ## Grouping -/

/-- `for x in xs: by_key[key(x)].append(val(x))` over a defaulting dictionary. -/
def groupBy (key : ι → κ) (val : ι → α) (xs : List ι) : Dict κ (List α) :=
  xs.foldl (fun d x => d.set (key x) ((d.get? (key x)).getD [] ++ [val x])) empty

/-- The values an element list contributes to one key, in list order. -/
def bucket (key : ι → κ) (val : ι → α) (xs : List ι) (k : κ) : List α :=
  (xs.filter fun x => key x = k).map val

theorem groupBy_append_singleton (key : ι → κ) (val : ι → α) (xs : List ι) (x : ι) :
    groupBy key val (xs ++ [x]) =
      (groupBy key val xs).set (key x)
        (((groupBy key val xs).get? (key x)).getD [] ++ [val x]) := by
  simp [groupBy]

theorem getD_groupBy (key : ι → κ) (val : ι → α) (xs : List ι) (k : κ) :
    ((groupBy key val xs).get? k).getD [] = bucket key val xs k := by
  induction xs using List.reverseRecOn with
  | nil => rfl
  | append_singleton xs x ih =>
      rw [groupBy_append_singleton]
      by_cases h : key x = k
      · subst h
        rw [get?_set_self, Option.getD_some, ih]
        simp [bucket]
      · rw [get?_set_ne _ _ h, ih]
        simp [bucket, h]

theorem mem_keys_groupBy {key : ι → κ} {val : ι → α} {xs : List ι} {k : κ} :
    k ∈ (groupBy key val xs).keys ↔ k ∈ xs.map key := by
  induction xs using List.reverseRecOn with
  | nil => simp [groupBy, keys]
  | append_singleton xs x ih =>
      rw [groupBy_append_singleton, mem_keys_set, ih]
      simp [or_comm, eq_comm]

theorem keys_groupBy_toFinset (key : ι → κ) (val : ι → α) (xs : List ι) :
    (groupBy key val xs).keys.toFinset = (xs.map key).toFinset := by
  ext k
  simp only [List.mem_toFinset]
  exact mem_keys_groupBy

/-- The number of groups is the number of distinct keys. -/
theorem size_groupBy (key : ι → κ) (val : ι → α) (xs : List ι) :
    (groupBy key val xs).size = (xs.map key).toFinset.card := by
  rw [← keys_groupBy_toFinset key val, List.toFinset_card_of_nodup (keys_nodup _), keys, size,
    List.length_map]

/-- A product over the groups is a product over all keys, whenever an empty
group contributes one. Iteration order plays no part. -/
theorem prod_groupBy [Fintype κ] {M : Type*} [CommMonoid M] (key : ι → κ) (val : ι → α)
    (xs : List ι) (f : κ → List α → M) (hf : ∀ k, f k [] = 1) :
    ((groupBy key val xs).items.map fun p => f p.1 p.2).prod =
      ∏ k, f k (bucket key val xs k) := by
  have hitems : (groupBy key val xs).items.map (fun p => f p.1 p.2) =
      (groupBy key val xs).keys.map (fun k => f k (bucket key val xs k)) := by
    rw [keys, List.map_map]
    apply List.map_congr_left
    intro p hp
    have hget : (groupBy key val xs).get? p.1 = some p.2 := get?_eq_some_iff.mpr hp
    have hval := getD_groupBy key val xs p.1
    rw [hget, Option.getD_some] at hval
    simp [hval]
  rw [hitems, ← List.prod_toFinset _ (keys_nodup _)]
  apply Finset.prod_subset (Finset.subset_univ _)
  intro k _ hk
  rw [List.mem_toFinset, mem_keys_groupBy] at hk
  have hempty : bucket key val xs k = [] := by
    rw [bucket, List.map_eq_nil_iff, List.filter_eq_nil_iff]
    intro x hx hkey
    exact hk (List.mem_map.mpr ⟨x, hx, of_decide_eq_true hkey⟩)
  rw [hempty, hf]

theorem bucket_perm (key : ι → κ) (val : ι → α) {xs ys : List ι} (h : xs.Perm ys) (k : κ) :
    (bucket key val xs k).Perm (bucket key val ys k) := (h.filter _).map val

/-! ## Changing values in place -/

def mapWithKey (f : κ → α → α) (d : Dict κ α) : Dict κ α :=
  ⟨d.items.map fun p => (p.1, f p.1 p.2), by
    rw [List.map_map]
    exact d.nodup⟩

omit [DecidableEq κ] in
@[simp] theorem items_mapWithKey (f : κ → α → α) (d : Dict κ α) :
    (d.mapWithKey f).items = d.items.map fun p => (p.1, f p.1 p.2) := rfl

omit [DecidableEq κ] in
theorem mapWithKey_mapWithKey (f g : κ → α → α) (d : Dict κ α) :
    (d.mapWithKey f).mapWithKey g = d.mapWithKey fun k v => g k (f k v) := by
  apply ext
  simp

/-- `if k in d: d[k] = f(d[k])` -/
def adjust (k : κ) (f : α → α) (d : Dict κ α) : Dict κ α :=
  d.mapWithKey fun k' v => if k' = k then f v else v

/-- A loop that adjusts each key once adjusts all of them at once. -/
theorem foldl_adjust {β : Type*} (f : β → α → α) {changes : List (κ × β)}
    (hnodup : (changes.map Prod.fst).Nodup) (d : Dict κ α) :
    changes.foldl (fun d change => d.adjust change.1 (f change.2)) d =
      d.mapWithKey fun k v => ((lookupIn k changes).map (f · v)).getD v := by
  induction changes generalizing d with
  | nil =>
      apply ext
      simp [lookupIn]
  | cons change rest ih =>
      rw [List.map_cons, List.nodup_cons] at hnodup
      rw [List.foldl_cons, ih hnodup.2, adjust, mapWithKey_mapWithKey]
      refine congrArg (mapWithKey · d) (funext fun k => funext fun v => ?_)
      obtain ⟨k', b⟩ := change
      by_cases hk : k = k'
      · subst hk
        rw [lookupIn_eq_none.mpr hnodup.1]
        simp [lookupIn]
      · simp [lookupIn, hk, Ne.symm hk]

theorem get?_update_map (f : κ → α) (keys : List κ) (d : Dict κ α) (k : κ) :
    (d.update (keys.map fun key => (key, f key))).get? k =
      if k ∈ keys then some (f k) else d.get? k := by
  induction keys generalizing d with
  | nil => rfl
  | cons key keys ih =>
      have hstep := ih (d.set key (f key))
      rw [get?_set] at hstep
      refine hstep.trans ?_
      by_cases hkeys : k ∈ keys
      · simp [hkeys]
      · by_cases hkey : key = k
        · simp [hkey]
        · simp [hkeys, hkey, Ne.symm hkey]

end Dict
