import TruePresenceESE.Lib.Json

/-! # Values a database keeps

A time comes back from a column of texts in the order it has as a time: its fields are
written in fixed widths, the larger units first. A document comes back with its keys in
another order, so documents are compared after their keys have been sorted.
-/

namespace StoredValues

/-! ## Texts of one width -/

section
variable {α : Type*} [LinearOrder α]

theorem append_lt_append_iff {front front' : List α} (hlength : front.length = front'.length)
    (back back' : List α) :
    front ++ back < front' ++ back' ↔ front < front' ∨ front = front' ∧ back < back' := by
  induction front generalizing front' with
  | nil =>
      cases front' with
      | nil => simp
      | cons c rest => cases hlength
  | cons c rest ih =>
      cases front' with
      | nil => cases hlength
      | cons c' rest' =>
          have hrest := ih (Nat.succ.inj hlength)
          rw [List.cons_append, List.cons_append, List.cons_lt_cons_iff, List.cons_lt_cons_iff, hrest,
            List.cons.injEq]
          tauto

end

section
variable {α β : Type*} [LinearOrder α] [LinearOrder β]

theorem strictMono_append {front : α → List Char} {back : β → List Char} (hfront : StrictMono front)
    (hwidth : ∀ a b, (front a).length = (front b).length) (hback : StrictMono back) :
    StrictMono fun p : α ×ₗ β => front (ofLex p).1 ++ back (ofLex p).2 := by
  intro p q hpq
  rw [Prod.Lex.lt_iff] at hpq
  apply (append_lt_append_iff (hwidth _ _) _ _).mpr
  rcases hpq with hlt | ⟨heq, hlt⟩
  · exact .inl (hfront hlt)
  · exact .inr ⟨congrArg front heq, hback hlt⟩

theorem strictMono_cons (c : Char) {back : β → List Char} (hback : StrictMono back) :
    StrictMono fun b => c :: back b := by
  intro b b' hlt
  exact List.cons_lt_cons_iff.mpr (.inr ⟨rfl, hback hlt⟩)

end

/-! ## Numbers -/

/-- The last `width` decimal digits. -/
def fixed : ℕ → ℕ → List Char
  | 0, _ => []
  | width + 1, n => fixed width (n / 10) ++ [Nat.digitChar (n % 10)]

@[simp] theorem length_fixed (width n : ℕ) : (fixed width n).length = width := by
  induction width generalizing n with
  | zero => rfl
  | succ width ih => simp [fixed, ih]

theorem digitChar_lt_iff {m n : ℕ} (hm : m < 10) (hn : n < 10) :
    Nat.digitChar m < Nat.digitChar n ↔ m < n := by
  have hall : ∀ m n : Fin 10, Nat.digitChar m < Nat.digitChar n ↔ m < n := by decide
  exact hall ⟨m, hm⟩ ⟨n, hn⟩

theorem fixed_lt_fixed {width m n : ℕ} (hn : n < 10 ^ width) (hlt : m < n) :
    fixed width m < fixed width n := by
  induction width generalizing m n with
  | zero => omega
  | succ width ih =>
      rw [pow_succ] at hn
      have hdigit : Nat.digitChar (m % 10) < Nat.digitChar (n % 10) ↔ m % 10 < n % 10 :=
        digitChar_lt_iff (by omega) (by omega)
      rw [fixed, fixed, append_lt_append_iff (by simp)]
      by_cases hfront : m / 10 = n / 10
      · refine .inr ⟨by rw [hfront], List.cons_lt_cons_iff.mpr (.inl ?_)⟩
        rw [hdigit]
        omega
      · exact .inl (ih (by omega) (by omega))

theorem strictMono_fixed {bound width : ℕ} (h : bound ≤ 10 ^ width) :
    StrictMono fun n : Fin bound => fixed width n := by
  intro m n hlt
  exact fixed_lt_fixed (lt_of_lt_of_le n.isLt h) hlt

/-! ## Times -/

def isLeap (year : ℕ) : Bool := year % 4 = 0 && (year % 100 ≠ 0 || year % 400 = 0)

def daysInMonth (year month : ℕ) : ℕ :=
  if month = 2 then if isLeap year then 29 else 28
  else if month ∈ [4, 6, 9, 11] then 30
  else 31

theorem daysInMonth_le (year month : ℕ) : daysInMonth year month ≤ 31 := by
  unfold daysInMonth
  split_ifs <;> omega

/-- A time in UTC to the microsecond. -/
@[ext] structure UtcTime where
  year : ℕ
  month : ℕ
  day : ℕ
  hour : ℕ
  minute : ℕ
  second : ℕ
  microsecond : ℕ
  year_mem : 1 ≤ year ∧ year ≤ 9999
  month_mem : 1 ≤ month ∧ month ≤ 12
  day_mem : 1 ≤ day ∧ day ≤ daysInMonth year month
  hour_lt : hour < 24
  minute_lt : minute < 60
  second_lt : second < 60
  microsecond_lt : microsecond < 1000000

namespace UtcTime

/-- The fields, from the largest unit to the smallest. -/
abbrev Fields := Fin 10000 ×ₗ Fin 100 ×ₗ Fin 100 ×ₗ Fin 100 ×ₗ Fin 100 ×ₗ Fin 100 ×ₗ Fin 1000000

def fields (t : UtcTime) : Fields :=
  toLex (⟨t.year, by have := t.year_mem; omega⟩, toLex (⟨t.month, by have := t.month_mem; omega⟩,
    toLex (⟨t.day, by have := t.day_mem; have := daysInMonth_le t.year t.month; omega⟩,
      toLex (⟨t.hour, by have := t.hour_lt; omega⟩, toLex (⟨t.minute, by have := t.minute_lt; omega⟩,
        toLex (⟨t.second, by have := t.second_lt; omega⟩, ⟨t.microsecond, t.microsecond_lt⟩))))))

theorem fields_injective : Function.Injective fields := by
  intro t t' h
  simp only [fields, toLex_inj, Prod.mk.injEq, Fin.mk.injEq] at h
  obtain ⟨hyear, hmonth, hday, hhour, hminute, hsecond, hmicrosecond⟩ := h
  exact UtcTime.ext hyear hmonth hday hhour hminute hsecond hmicrosecond

/-- Times are ordered by their fields. -/
instance : LinearOrder UtcTime := LinearOrder.lift' fields fields_injective

/-- The fraction of the second is left out where it is zero. -/
def fractionText (microsecond : Fin 1000000) : List Char :=
  (if (microsecond : ℕ) = 0 then [] else '.' :: fixed 6 microsecond) ++ "+00:00".toList

def fieldsText (f : Fields) : List Char :=
  fixed 4 (ofLex f).1 ++ '-' :: (fixed 2 (ofLex (ofLex f).2).1 ++ '-' ::
    (fixed 2 (ofLex (ofLex (ofLex f).2).2).1 ++ 'T' ::
      (fixed 2 (ofLex (ofLex (ofLex (ofLex f).2).2).2).1 ++ ':' ::
        (fixed 2 (ofLex (ofLex (ofLex (ofLex (ofLex f).2).2).2).2).1 ++ ':' ::
          (fixed 2 (ofLex (ofLex (ofLex (ofLex (ofLex (ofLex f).2).2).2).2).2).1 ++
            fractionText (ofLex (ofLex (ofLex (ofLex (ofLex (ofLex f).2).2).2).2).2).2)))))

/-- `t.isoformat()` -/
def isoformat (t : UtcTime) : String := String.ofList (fieldsText t.fields)

theorem strictMono_fractionText : StrictMono fractionText := by
  intro m n hlt
  have hn : (n : ℕ) ≠ 0 := by
    have hlt' : (m : ℕ) < n := hlt
    omega
  rw [fractionText, fractionText, if_neg hn]
  by_cases hm : (m : ℕ) = 0
  · -- a plus comes before a dot
    rw [if_pos hm]
    exact List.cons_lt_cons_iff.mpr (.inl (by decide))
  · rw [if_neg hm, append_lt_append_iff (by simp)]
    exact .inl (List.cons_lt_cons_iff.mpr (.inr ⟨rfl, fixed_lt_fixed n.isLt hlt⟩))

theorem strictMono_fieldsText : StrictMono fieldsText := by
  have hpair : StrictMono fun n : Fin 100 => fixed 2 n := strictMono_fixed (by norm_num)
  have hwidth : ∀ m n : Fin 100, (fixed 2 m).length = (fixed 2 n).length := by simp
  have hsecond := strictMono_append hpair hwidth strictMono_fractionText
  have hminute := strictMono_append hpair hwidth (strictMono_cons ':' hsecond)
  have hhour := strictMono_append hpair hwidth (strictMono_cons ':' hminute)
  have hday := strictMono_append hpair hwidth (strictMono_cons 'T' hhour)
  have hmonth := strictMono_append hpair hwidth (strictMono_cons '-' hday)
  have hyear : StrictMono fun n : Fin 10000 => fixed 4 n := strictMono_fixed (by norm_num)
  exact strictMono_append hyear (by simp) (strictMono_cons '-' hmonth)

/-- The texts of times are ordered like the times. -/
theorem isoformat_le_iff {t t' : UtcTime} : t.isoformat ≤ t'.isoformat ↔ t ≤ t' := by
  rw [isoformat, isoformat, String.le_iff_toList_le, String.toList_ofList, String.toList_ofList,
    strictMono_fieldsText.le_iff_le]
  rfl

theorem isoformat_injective : Function.Injective isoformat := by
  intro t t' h
  exact le_antisymm (isoformat_le_iff.mp h.le) (isoformat_le_iff.mp h.ge)

end UtcTime

end StoredValues

namespace Json

/-! ## Documents -/

/-- Fields in the order of their keys. -/
def sortedFields (fields : List (String × Json)) : List (String × Json) :=
  fields.mergeSort fun p q => p.1 ≤ q.1

mutual

/-- The value with the keys of its objects sorted: what is read back of
`json.dumps(value, sort_keys=True)`. -/
def sortKeys : Json → Json
  | .obj fields => .obj (sortedFields (sortKeysFields fields))
  | .arr items => .arr (sortKeysItems items)
  | .null => .null
  | .bool b => .bool b
  | .num q => .num q
  | .str s => .str s

def sortKeysItems : List Json → List Json
  | [] => []
  | item :: rest => sortKeys item :: sortKeysItems rest

def sortKeysFields : List (String × Json) → List (String × Json)
  | [] => []
  | (key, value) :: rest => (key, sortKeys value) :: sortKeysFields rest

end

theorem sortKeys_arr (items : List Json) : sortKeys (.arr items) = .arr (items.map sortKeys) := by
  rw [sortKeys]
  congr 1
  induction items with
  | nil => rfl
  | cons item rest ih => rw [sortKeysItems, ih, List.map_cons]

theorem sortKeys_obj (fields : List (String × Json)) :
    sortKeys (.obj fields) = .obj (sortedFields (fields.map fun p => (p.1, p.2.sortKeys))) := by
  have hfields : sortKeysFields fields = fields.map fun p => (p.1, p.2.sortKeys) := by
    induction fields with
    | nil => rfl
    | cons p rest ih =>
        cases p with
        | mk key value => rw [sortKeysFields, ih, List.map_cons]
  rw [sortKeys, hfields]

theorem sortedFields_perm (fields : List (String × Json)) : (sortedFields fields).Perm fields :=
  List.mergeSort_perm _ _

theorem sortedFields_sortedFields (fields : List (String × Json)) :
    sortedFields (sortedFields fields) = sortedFields fields := by
  apply List.mergeSort_of_pairwise
  apply List.pairwise_mergeSort
  · intro p q r hpq hqr
    simp only [decide_eq_true_eq] at hpq hqr ⊢
    exact hpq.trans hqr
  · intro p q
    simpa using le_total p.1 q.1

/-- Sorting by keys leaves the values to what is done to them. -/
theorem map_sortedFields (f : Json → Json) (fields : List (String × Json)) :
    (sortedFields fields).map (fun p => (p.1, f p.2)) =
      sortedFields (fields.map fun p => (p.1, f p.2)) :=
  List.map_mergeSort fun _ _ _ _ => rfl

theorem sortKeys_sortKeys (value : Json) : value.sortKeys.sortKeys = value.sortKeys := by
  induction value using tree_induction with
  | null => rfl
  | bool b => rfl
  | num q => rfl
  | str s => rfl
  | arr items ih =>
      rw [sortKeys_arr, sortKeys_arr, List.map_map]
      exact congrArg Json.arr (List.map_congr_left ih)
  | obj fields ih =>
      rw [sortKeys_obj, sortKeys_obj, map_sortedFields, sortedFields_sortedFields, List.map_map]
      refine congrArg (Json.obj ∘ sortedFields) (List.map_congr_left fun p hp => ?_)
      exact congrArg (p.1, ·) (ih p hp)

section
variable {value : Json}

theorem eq_arr_of_sortKeys {items : List Json} (h : value.sortKeys = .arr items) :
    ∃ items', value = .arr items' ∧ items'.map sortKeys = items := by
  cases value with
  | arr items' =>
      rw [sortKeys_arr, Json.arr.injEq] at h
      exact ⟨items', rfl, h⟩
  | obj fields => simp [sortKeys] at h
  | null => simp [sortKeys] at h
  | bool b => simp [sortKeys] at h
  | num q => simp [sortKeys] at h
  | str s => simp [sortKeys] at h

theorem eq_obj_of_sortKeys {fields : List (String × Json)} (h : value.sortKeys = .obj fields) :
    ∃ fields', value = .obj fields' ∧
      sortedFields (fields'.map fun p => (p.1, p.2.sortKeys)) = fields := by
  cases value with
  | obj fields' =>
      rw [sortKeys_obj, Json.obj.injEq] at h
      exact ⟨fields', rfl, h⟩
  | arr items => simp [sortKeys] at h
  | null => simp [sortKeys] at h
  | bool b => simp [sortKeys] at h
  | num q => simp [sortKeys] at h
  | str s => simp [sortKeys] at h

theorem eq_str_of_sortKeys {text : String} (h : value.sortKeys = .str text) : value = .str text := by
  cases value with
  | str s => simpa [sortKeys] using h
  | arr items => simp [sortKeys] at h
  | obj fields => simp [sortKeys] at h
  | null => simp [sortKeys] at h
  | bool b => simp [sortKeys] at h
  | num q => simp [sortKeys] at h

theorem eq_num_of_sortKeys {q : ℚ} (h : value.sortKeys = .num q) : value = .num q := by
  cases value with
  | num q' => simpa [sortKeys] using h
  | arr items => simp [sortKeys] at h
  | obj fields => simp [sortKeys] at h
  | null => simp [sortKeys] at h
  | bool b => simp [sortKeys] at h
  | str s => simp [sortKeys] at h

end

/-- What holds of every key and text does not depend on the order of keys. -/
theorem all_sortKeys_iff {K S : String → Prop} (value : Json) :
    value.sortKeys.All K S ↔ value.All K S := by
  induction value using tree_induction with
  | null => simp [sortKeys]
  | bool b => simp [sortKeys]
  | num q => simp [sortKeys]
  | str s => simp [sortKeys]
  | arr items ih =>
      rw [sortKeys_arr, all_arr_iff, all_arr_iff, List.forall_mem_map]
      exact forall₂_congr ih
  | obj fields ih =>
      rw [sortKeys_obj, all_obj_iff, all_obj_iff, forall_congr' fun p =>
        imp_congr_left (sortedFields_perm _).mem_iff, List.forall_mem_map]
      exact forall₂_congr fun p hp => and_congr_right fun _ => ih p hp

end Json
