import TruePresenceESE.Lib.PyData

/-! # Records read from dictionaries

A record is read field by field, and every field that is wrong is reported with the path to
it. Keys that name no field are kept beside the fields. Writing the record leaves out what
is `None`; reading it back gives the fields again and the other keys as they were written.
-/

namespace Records

open PyData (Carries)

/-! ## Checked values -/

structure ErrorItem where
  loc : List String
  msg : String
  deriving DecidableEq

/-- A value, or what is wrong with it. -/
inductive Checked (α : Type) where
  | ok (value : α)
  | wrong (items : List ErrorItem)

namespace Checked

variable {α β : Type}

/-- Both sides are looked at, and the errors of both are kept. -/
instance : Applicative Checked where
  pure := .ok
  seq f x :=
    match f, x () with
    | .ok f, .ok a => .ok (f a)
    | .ok _, .wrong items => .wrong items
    | .wrong items, .ok _ => .wrong items
    | .wrong items, .wrong items' => .wrong (items ++ items')

/-- A further check of a value that has passed. -/
def also (x : Checked α) (f : α → Checked β) : Checked β :=
  match x with
  | .ok a => f a
  | .wrong items => .wrong items

def fail (msg : String) : Checked α := .wrong [⟨[], msg⟩]

/-- What a validator raises as a `ValueError`. -/
def valueError (msg : String) : Checked α := fail ("Value error, " ++ msg)

/-- Errors are reported under the place where the value is. -/
def within (place : String) : Checked α → Checked α
  | .ok a => .ok a
  | .wrong items => .wrong (items.map fun item => { item with loc := place :: item.loc })

@[simp] theorem pure_eq (a : α) : (pure a : Checked α) = .ok a := rfl

@[simp] theorem ok_seq_ok (f : α → β) (a : α) : (.ok f <*> .ok a : Checked β) = .ok (f a) := rfl

@[simp] theorem map_ok (f : α → β) (a : α) : f <$> (.ok a : Checked α) = .ok (f a) := rfl

@[simp] theorem within_ok (place : String) (a : α) : within place (.ok a) = .ok a := rfl

theorem seq_eq_ok_iff {f : Checked (α → β)} {x : Checked α} {b : β} :
    f <*> x = .ok b ↔ ∃ g a, f = .ok g ∧ x = .ok a ∧ g a = b := by
  cases f with
  | ok g =>
      cases x with
      | ok a => simp
      | wrong items => simp [Seq.seq]
  | wrong items => cases x <;> simp [Seq.seq]

theorem map_eq_ok_iff {f : α → β} {x : Checked α} {b : β} :
    f <$> x = .ok b ↔ ∃ a, x = .ok a ∧ f a = b := by
  cases x with
  | ok a => simp
  | wrong items => simp [Functor.map]

theorem also_eq_ok_iff {x : Checked α} {f : α → Checked β} {b : β} :
    x.also f = .ok b ↔ ∃ a, x = .ok a ∧ f a = .ok b := by
  cases x <;> simp [also]

theorem within_eq_ok_iff {place : String} {x : Checked α} {a : α} :
    within place x = .ok a ↔ x = .ok a := by
  cases x <;> simp [within]

end Checked

open Checked

/-- Every item is checked, at its place. -/
def traverse {α β : Type} (place : α → String) (check : α → Checked β) : List α → Checked (List β)
  | [] => .ok []
  | a :: rest => List.cons <$> within (place a) (check a) <*> traverse place check rest

theorem traverse_map_ok {α β γ : Type} {place : α → String} {check : α → Checked β} {f : γ → α}
    {g : γ → β} {items : List γ} (h : ∀ c ∈ items, check (f c) = .ok (g c)) :
    traverse place check (items.map f) = .ok (items.map g) := by
  induction items with
  | nil => rfl
  | cons c rest ih =>
      rw [List.forall_mem_cons] at h
      rw [List.map_cons, traverse, h.1, ih h.2]
      rfl

/-! ## Fields -/

abbrev Fields := List (PyKey × PyData)

section
variable {α : Type} (fields : Fields) (name : String)

def field (absent : Checked α) (check : PyData → Checked α) : Checked α :=
  match fields.lookup (.text name) with
  | none => absent
  | some value => within name (check value)

def required (check : PyData → Checked α) : Checked α :=
  field fields name (within name (fail "Field required")) check

/-- A default is taken as it is. -/
def defaulted (default : α) (check : PyData → Checked α) : Checked α :=
  field fields name (.ok default) check

/-- `Optional[…]` -/
def nullable (check : PyData → Checked α) : PyData → Checked (Option α)
  | .none => .ok none
  | value => some <$> check value

/-- `Optional[…] = None` -/
def optional (check : PyData → Checked α) : Checked (Option α) :=
  defaulted fields name none (nullable check)

end

/-- The keys that name no field, with their values. -/
structure Extra (names : List String) where
  items : List (String × PyData)
  fresh : ∀ p ∈ items, p.1 ∉ names

def otherField (names : List String) : PyKey × PyData → Option (String × PyData)
  | (.text name, value) => if name ∈ names then none else some (name, value)
  | (.other _, _) => none

def invalidKey : PyKey × PyData → Option ErrorItem
  | (.text _, _) => none
  | (.other shown, _) => some ⟨[shown], "Keys should be strings"⟩

theorem fresh_of_otherField {names : List String} {fields : Fields} :
    ∀ p ∈ fields.filterMap (otherField names), p.1 ∉ names := by
  intro p hp
  obtain ⟨⟨key, value⟩, -, hother⟩ := List.mem_filterMap.mp hp
  cases key with
  | text name =>
      rw [otherField] at hother
      split at hother
      · cases hother
      · next hname =>
          cases hother
          exact hname
  | other shown => cases hother

def Extra.read (names : List String) (fields : Fields) : Checked (Extra names) :=
  match fields.filterMap invalidKey with
  | [] => .ok ⟨fields.filterMap (otherField names), fresh_of_otherField⟩
  | items => .wrong items

/-- Reading a record of the class `title`. -/
def record {α : Type} (title : String) (read : Fields → Checked α) : PyData → Checked α
  | .dict fields => read fields
  | _ => fail ("Input should be a valid dictionary or instance of " ++ title)

/-! ## Writing -/

/-- The named values that are not `None`. -/
def present (values : List (String × PyData)) : List (String × PyData) :=
  values.filter fun p => !p.2.isNone

/-- `model_dump(exclude_none=True)` -/
def dump {names : List String} (known : List (String × PyData)) (extra : Extra names) : PyData :=
  .dict ((present (known ++ extra.items)).map fun p => (.text p.1, p.2))

def optionalData {α : Type} (data : α → PyData) : Option α → PyData
  | none => .none
  | some a => data a

/-- The extra keys once they are written and read. -/
def Extra.carried {names : List String} (t : PyData → PyData) (extra : Extra names) :
    Extra names where
  items := (present extra.items).map fun p => (p.1, t p.2)
  fresh p hp := by
    obtain ⟨q, hq, rfl⟩ := List.mem_map.mp hp
    exact extra.fresh q (List.mem_filter.mp hq).1

/-! ## Reading what was written -/

section
variable {α : Type} {t : PyData → PyData} {names : List String} {known : List (String × PyData)}
  {extra : Extra names} {name : String} {value : PyData}

/-- The fields of a written record once they are read. -/
def carriedFields (t : PyData → PyData) (known : List (String × PyData)) (extra : Extra names) :
    Fields :=
  (present (known ++ extra.items)).map fun p => (.text p.1, t p.2)

theorem carries_dump (ht : Carries t) (known : List (String × PyData)) (extra : Extra names) :
    t (dump known extra) = .dict (carriedFields t known extra) := by
  rw [dump, ht.dict, List.map_map]
  rfl

theorem lookup_map_text {values : List (String × PyData)} :
    (values.map fun p => (PyKey.text p.1, t p.2)).lookup (.text name) =
      (values.lookup name).map t := by
  induction values with
  | nil => rfl
  | cons p rest ih =>
      have hkey : (PyKey.text name == PyKey.text p.1) = (name == p.1) := by
        rw [Bool.eq_iff_iff, beq_iff_eq, beq_iff_eq, PyKey.text.injEq]
      rw [List.map_cons, List.lookup_cons, List.lookup_cons, ih, hkey]
      cases name == p.1 <;> rfl

theorem lookup_present {values : List (String × PyData)} (hmem : (name, value) ∈ values)
    (honce : ∀ p ∈ values, p.1 = name → p.2 = value) :
    (present values).lookup name = if value.isNone then none else some value := by
  induction values with
  | nil => cases hmem
  | cons p rest ih =>
      rw [List.forall_mem_cons] at honce
      obtain ⟨key, v⟩ := p
      by_cases hkey : key = name
      · have hv : v = value := honce.1 hkey
        subst hkey hv
        cases hnone : v.isNone with
        | false => simp [present, hnone]
        | true =>
            have hrest : ∀ p ∈ present rest, p.1 ≠ key := by
              intro p hp heq
              obtain ⟨hp, hvalue⟩ := List.mem_filter.mp hp
              rw [honce.2 p hp heq, hnone] at hvalue
              cases hvalue
            have hlookup : (present rest).lookup key = none := by
              rw [List.lookup_eq_none_iff]
              intro p hp
              simpa using (hrest p hp).symm
            simpa [present, hnone] using hlookup
      · have hrest : (name, value) ∈ rest := by
          rcases List.mem_cons.mp hmem with heq | hrest
          · cases heq
            exact absurd rfl hkey
          · exact hrest
        have hstep : (present ((key, v) :: rest)).lookup name = (present rest).lookup name := by
          unfold present
          rw [List.filter_cons]
          split
          · rw [List.lookup_cons]
            have hne : (name == key) = false := by simpa using Ne.symm hkey
            rw [hne]
          · rfl
        rw [hstep]
        exact ih hrest honce.2

/-- A field that is not `None` is read from what was written. -/
theorem field_carried (hnames : known.map Prod.fst = names) (hnodup : names.Nodup)
    {absent : Checked α} {check : PyData → Checked α} (hmem : (name, value) ∈ known) :
    field (carriedFields t known extra) name absent check =
      if value.isNone then absent else within name (check (t value)) := by
  have honce : ∀ p ∈ known ++ extra.items, p.1 = name → p.2 = value := by
    intro p hp heq
    rcases List.mem_append.mp hp with hknown | hextra
    · have hsame := List.inj_on_of_nodup_map (hnames ▸ hnodup) hknown hmem heq
      rw [hsame]
    · have hname : name ∈ names := hnames ▸ List.mem_map_of_mem hmem
      exact absurd (heq ▸ hname) (extra.fresh p hextra)
  rw [field, carriedFields, lookup_map_text,
    lookup_present (List.mem_append_left _ hmem) honce]
  cases value.isNone <;> rfl

theorem required_carried (hnames : known.map Prod.fst = names) (hnodup : names.Nodup)
    {check : PyData → Checked α} {a : α} (hmem : (name, value) ∈ known)
    (hvalue : value.isNone = false) (hcheck : check (t value) = .ok a) :
    required (carriedFields t known extra) name check = .ok a := by
  rw [required, field_carried hnames hnodup hmem, hvalue, hcheck]
  rfl

theorem defaulted_carried (hnames : known.map Prod.fst = names) (hnodup : names.Nodup)
    {check : PyData → Checked α} {default a : α} (hmem : (name, value) ∈ known)
    (hvalue : value.isNone = false) (hcheck : check (t value) = .ok a) :
    defaulted (carriedFields t known extra) name default check = .ok a := by
  rw [defaulted, field_carried hnames hnodup hmem, hvalue, hcheck]
  rfl

/-- A field that may be `None` is left out where it is. -/
theorem optional_carried {β : Type} (ht : Carries t) (hnames : known.map Prod.fst = names)
    (hnodup : names.Nodup) {data : β → PyData} {check : PyData → Checked α} {a : Option β}
    {read : β → α} (hmem : (name, optionalData data a) ∈ known)
    (hdata : ∀ b, (data b).isNone = false) (hcheck : ∀ b, check (t (data b)) = .ok (read b)) :
    optional (carriedFields t known extra) name check = .ok (a.map read) := by
  rw [optional, defaulted, field_carried hnames hnodup hmem]
  cases a with
  | none => rfl
  | some b =>
      have hnone : (t (data b)).isNone = false := by rw [ht.isNone, hdata]
      rw [optionalData, hdata, if_neg Bool.false_ne_true, nullable, hcheck]
      · rfl
      · intro heq
        rw [heq] at hnone
        cases hnone

theorem extra_carried (hnames : known.map Prod.fst = names) :
    Extra.read names (carriedFields t known extra) = .ok (extra.carried t) := by
  have hvalid : (carriedFields t known extra).filterMap invalidKey = [] := by
    rw [List.filterMap_eq_nil_iff]
    intro p hp
    obtain ⟨q, -, rfl⟩ := List.mem_map.mp hp
    rfl
  have hknown : ∀ p ∈ (present known).map fun p => (PyKey.text p.1, t p.2),
      otherField names p = none := by
    intro p hp
    obtain ⟨q, hq, rfl⟩ := List.mem_map.mp hp
    exact if_pos (hnames ▸ List.mem_map_of_mem (List.mem_filter.mp hq).1)
  have hextra : ((present extra.items).map fun p => (PyKey.text p.1, t p.2)).filterMap
      (otherField names) = (extra.carried t).items := by
    have hitems : (extra.carried t).items = (present extra.items).map fun p => (p.1, t p.2) := rfl
    rw [hitems, List.filterMap_map, ← List.filterMap_eq_map]
    refine List.filterMap_congr fun p hp => ?_
    exact if_neg (extra.fresh p (List.mem_filter.mp hp).1)
  have hitems : (carriedFields t known extra).filterMap (otherField names) =
      (extra.carried t).items := by
    rw [carriedFields, present, List.filter_append, List.map_append, List.filterMap_append]
    change List.filterMap _ (List.map _ (present known)) ++
      List.filterMap _ (List.map _ (present extra.items)) = _
    rw [List.filterMap_eq_nil_iff.mpr hknown, hextra, List.nil_append]
  unfold Extra.read
  rw [hvalid]
  simp only [hitems]

theorem present_map (ht : Carries t) (values : List (String × PyData)) :
    present (values.map fun p => (p.1, t p.2)) = (present values).map fun p => (p.1, t p.2) := by
  rw [present, List.filter_map, present]
  refine congrArg _ (List.filter_congr fun p _ => ?_)
  rw [Function.comp_apply, ht.isNone]

/-- Writing what was read changes nothing more. -/
theorem dump_carried (ht : Carries t) {known' : List (String × PyData)}
    (hknown : known'.map (fun p => (p.1, t p.2)) = known.map fun p => (p.1, t p.2)) :
    t (dump known' (extra.carried t)) = t (dump known extra) := by
  have hsplit : ∀ (values : List (String × PyData)) (other : Extra names),
      carriedFields t values other =
        (present (values.map fun p => (p.1, t p.2)) ++
          present (other.items.map fun p => (p.1, t p.2))).map fun p => (PyKey.text p.1, p.2) := by
    intro values other
    rw [present_map ht, present_map ht, ← List.map_append, List.map_map, carriedFields, present,
      List.filter_append]
    rfl
  have hextra : present ((extra.carried t).items.map fun p => (p.1, t p.2)) =
      present (extra.items.map fun p => (p.1, t p.2)) := by
    have hagain : (extra.carried t).items.map (fun p => (p.1, t p.2)) =
        present (extra.items.map fun p => (p.1, t p.2)) := by
      rw [present_map ht, Extra.carried, List.map_map]
      exact List.map_congr_left fun p _ => Prod.ext rfl (ht.again p.2)
    rw [hagain, present, present, List.filter_filter]
    exact List.filter_congr fun p _ => Bool.and_self _
  rw [carries_dump ht, carries_dump ht, hsplit, hsplit, hknown, hextra]

end

/-! ## Dictionaries with texts as keys -/

def textFields (fields : List (String × PyData)) : Fields := fields.map fun p => (.text p.1, p.2)

section
variable {α : Type} {fields : List (String × PyData)} {name : String} {value : PyData} {a : α}
  {check : PyData → Checked α}

theorem field_text (absent : Checked α) : field (textFields fields) name absent check =
    match fields.lookup name with
    | none => absent
    | some value => within name (check value) := by
  have hlookup := @lookup_map_text id name fields
  rw [Option.map_id] at hlookup
  rw [field]
  exact congrArg (fun found => match found with
    | none => absent
    | some value => within name (check value)) hlookup

theorem required_text (h : fields.lookup name = some value) (hcheck : check value = .ok a) :
    required (textFields fields) name check = .ok a := by
  rw [required, field_text, h]
  dsimp only
  rw [hcheck]
  rfl

theorem defaulted_text {default : α} (h : fields.lookup name = some value)
    (hcheck : check value = .ok a) : defaulted (textFields fields) name default check = .ok a := by
  rw [defaulted, field_text, h]
  dsimp only
  rw [hcheck]
  rfl

theorem defaulted_absent {default : α} (h : fields.lookup name = none) :
    defaulted (textFields fields) name default check = .ok default := by
  rw [defaulted, field_text, h]

theorem optional_text (h : fields.lookup name = some value) (hnone : value ≠ .none)
    (hcheck : check value = .ok a) : optional (textFields fields) name check = .ok (some a) := by
  refine defaulted_text h ?_
  rw [nullable, hcheck]
  · rfl
  · exact hnone

theorem optional_absent (h : fields.lookup name = none) :
    optional (textFields fields) name check = .ok none :=
  defaulted_absent h

theorem exists_extra_text (names : List String) (fields : List (String × PyData)) :
    ∃ extra, Extra.read names (textFields fields) = .ok extra := by
  have hvalid : (textFields fields).filterMap invalidKey = [] := by
    rw [List.filterMap_eq_nil_iff]
    intro p hp
    obtain ⟨q, -, rfl⟩ := List.mem_map.mp hp
    rfl
  unfold Extra.read
  rw [hvalid]
  exact ⟨_, rfl⟩

end

theorem exists_traverse {α β : Type} {place : α → String} {check : α → Checked β}
    {R : α → β → Prop} {items : List α} (h : ∀ a ∈ items, ∃ b, check a = .ok b ∧ R a b) :
    ∃ out, traverse place check items = .ok out ∧ List.Forall₂ R items out := by
  induction items with
  | nil => exact ⟨[], rfl, .nil⟩
  | cons a rest ih =>
      rw [List.forall_mem_cons] at h
      obtain ⟨b, hb, hR⟩ := h.1
      obtain ⟨out, hout, hall⟩ := ih h.2
      refine ⟨b :: out, ?_, .cons hR hall⟩
      rw [traverse, hb, hout]
      rfl

end Records
