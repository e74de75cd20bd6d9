import Mathlib.Data.List.Nodup
import Mathlib.Data.List.Sort

/-!
# Table — keyed rows, guarded selection, and append-only logs

* `Table ρ key` is a list of rows with pairwise distinct keys.  The distinctness travels with the
  value, so a table with two rows of one key cannot be built.
* `Table.select` is the shape of `SELECT … WHERE … ORDER BY … LIMIT …`: filter, stable sort, take.
* `Table.modify` rewrites the selected rows in place; it never changes a key.
* `Table.Evolves R N` says how a table may have changed: old rows along `R`, new rows in `N`.
* `latestBy` is `ORDER BY rank DESC LIMIT 1` on a log; a row appended with a rank above all others
  is the latest one.
-/

namespace MoneyMachine
namespace Library

universe u v

/-- A list of rows whose keys are pairwise distinct. -/
structure Table (ρ : Type u) {κ : Type v} (key : ρ → κ) where
  rows : List ρ
  nodup : (rows.map key).Nodup

namespace Table

variable {ρ : Type u} {κ : Type v} {key : ρ → κ}

instance : Membership ρ (Table ρ key) := ⟨fun t r => r ∈ t.rows⟩

theorem mem_def {t : Table ρ key} {r : ρ} : r ∈ t ↔ r ∈ t.rows := Iff.rfl

/-- A key determines its row. -/
theorem eq_of_key_eq {t : Table ρ key} {r r' : ρ} (h : r ∈ t) (h' : r' ∈ t)
    (hkey : key r = key r') : r = r' :=
  List.inj_on_of_nodup_map t.nodup h h' hkey

/-! ## Lookup -/

/-- The row with key `k`, when there is one. -/
def get? [DecidableEq κ] (t : Table ρ key) (k : κ) : Option ρ :=
  t.rows.find? (fun r => decide (key r = k))

theorem get?_eq_some_iff [DecidableEq κ] {t : Table ρ key} {k : κ} {r : ρ} :
    t.get? k = some r ↔ r ∈ t ∧ key r = k := by
  constructor
  · intro h
    refine ⟨List.mem_of_find?_eq_some h, ?_⟩
    simpa using List.find?_some h
  · rintro ⟨hmem, hkey⟩
    cases hget : t.get? k with
    | none =>
      have hnone := List.find?_eq_none.1 hget r hmem
      simp [hkey] at hnone
    | some r' =>
      have hmem' : r' ∈ t := List.mem_of_find?_eq_some hget
      have hkey' : key r' = k := by simpa using List.find?_some hget
      rw [eq_of_key_eq hmem' hmem (hkey'.trans hkey.symm)]

/-! ## Selection -/

/-- Filter, stable sort, take: the rows a bounded ordered query returns. -/
def select (t : Table ρ key) (p : ρ → Bool) (le : ρ → ρ → Prop) [DecidableRel le]
    (limit : Nat) : List ρ :=
  ((t.rows.filter p).insertionSort le).take limit

theorem mem_of_mem_select {t : Table ρ key} {p : ρ → Bool} {le : ρ → ρ → Prop} [DecidableRel le]
    {limit : Nat} {r : ρ} (h : r ∈ t.select p le limit) : r ∈ t ∧ p r = true := by
  have hsorted : r ∈ (t.rows.filter p).insertionSort le := List.mem_of_mem_take h
  have hfilter : r ∈ t.rows.filter p := (List.mem_insertionSort le).1 hsorted
  simpa [mem_def] using List.mem_filter.1 hfilter

/-! ## In-place updates -/

/-- Rewrite the rows `sel` picks; the rewriting keeps every key. -/
def modify (t : Table ρ key) (sel : ρ → Bool) (f : ρ → ρ) (hf : ∀ r, key (f r) = key r) :
    Table ρ key where
  rows := t.rows.map (fun r => if sel r then f r else r)
  nodup := by
    have hkeys : (t.rows.map (fun r => if sel r then f r else r)).map key = t.rows.map key := by
      rw [List.map_map]
      refine List.map_congr_left ?_
      intro r _
      by_cases hsel : sel r <;> simp [hsel, hf]
    rw [hkeys]
    exact t.nodup

theorem modify_rows (t : Table ρ key) (sel : ρ → Bool) (f : ρ → ρ)
    (hf : ∀ r, key (f r) = key r) :
    (t.modify sel f hf).rows = t.rows.map (fun r => if sel r then f r else r) := rfl

theorem mem_modify {t : Table ρ key} {sel : ρ → Bool} {f : ρ → ρ}
    (hf : ∀ r, key (f r) = key r) {r' : ρ} :
    r' ∈ t.modify sel f hf ↔ ∃ r ∈ t, (if sel r then f r else r) = r' := by
  simp [mem_def, modify_rows]

/-- No key is lost. -/
theorem exists_mem_modify {t : Table ρ key} {sel : ρ → Bool} {f : ρ → ρ}
    (hf : ∀ r, key (f r) = key r) {r : ρ} (hr : r ∈ t) :
    ∃ r' ∈ t.modify sel f hf, key r' = key r := by
  refine ⟨if sel r then f r else r, (mem_modify hf).2 ⟨r, hr, rfl⟩, ?_⟩
  by_cases h : sel r <;> simp [h, hf]

/-- A lookup sees the rewritten row. -/
theorem get?_modify [DecidableEq κ] {t : Table ρ key} {sel : ρ → Bool} {f : ρ → ρ}
    (hf : ∀ r, key (f r) = key r) (k : κ) :
    (t.modify sel f hf).get? k = (t.get? k).map (fun r => if sel r then f r else r) := by
  have hsame : (fun r => decide (key r = k)) ∘ (fun r => if sel r then f r else r) =
      fun r => decide (key r = k) := by
    funext r
    by_cases h : sel r <;> simp [h, hf]
  rw [get?, get?, modify_rows, List.find?_map, hsame]

/-! ## Insertion -/

/-- Append a row unless its key is taken. -/
def insert? [DecidableEq κ] (t : Table ρ key) (r : ρ) : Option (Table ρ key) :=
  if h : key r ∈ t.rows.map key then
    none
  else
    some
      { rows := t.rows ++ [r]
        nodup := by
          rw [List.map_append, List.map_singleton]
          exact List.nodup_append.2
            ⟨t.nodup, List.nodup_singleton _, by
              intro a ha b hb hab
              rw [List.mem_singleton] at hb
              exact h (by rw [← hb, ← hab]; exact ha)⟩ }

theorem insert?_eq_some [DecidableEq κ] {t t' : Table ρ key} {r : ρ} (h : t.insert? r = some t') :
    t'.rows = t.rows ++ [r] := by
  unfold insert? at h
  split at h
  · cases h
  · cases h
    rfl

/-- A lookup of another key does not see the new row. -/
theorem get?_insert_of_ne [DecidableEq κ] {t t' : Table ρ key} {r : ρ} {k : κ}
    (h : t.insert? r = some t') (hne : key r ≠ k) : t'.get? k = t.get? k := by
  rw [get?, get?, insert?_eq_some h, List.find?_append]
  simp [hne]

/-- A key that is free can be inserted. -/
theorem insert?_of_free [DecidableEq κ] {t : Table ρ key} {r : ρ} (h : ∀ r' ∈ t, key r' ≠ key r) :
    ∃ t', t.insert? r = some t' ∧ t'.rows = t.rows ++ [r] := by
  have hfree : key r ∉ t.rows.map key := by
    intro hmem
    rcases List.mem_map.1 hmem with ⟨r', hr', hkey⟩
    exact h r' hr' hkey
  refine ⟨_, dif_neg hfree, rfl⟩

theorem get?_insert [DecidableEq κ] {t t' : Table ρ key} {r : ρ} (h : t.insert? r = some t')
    (k : κ) : t'.get? k = if key r = k then some r else t.get? k := by
  by_cases hkey : key r = k
  · have hmem : r ∈ t' := by
      rw [mem_def, insert?_eq_some h]
      exact List.mem_append_right _ (List.mem_singleton_self r)
    rw [if_pos hkey]
    exact get?_eq_some_iff.2 ⟨hmem, hkey⟩
  · rw [if_neg hkey]
    exact get?_insert_of_ne h hkey

theorem exists_insert [DecidableEq κ] {t : Table ρ key} {r : ρ} (h : t.get? (key r) = none) :
    ∃ t', t.insert? r = some t' := by
  have hfree : ∀ r' ∈ t, key r' ≠ key r := by
    intro r' hmem hkey
    have hget : t.get? (key r) = some r' := get?_eq_some_iff.2 ⟨hmem, hkey⟩
    rw [h] at hget
    cases hget
  rcases insert?_of_free hfree with ⟨t', hins, -⟩
  exact ⟨t', hins⟩

/-! ## Removal -/

/-- The rows of the other keys. -/
def erase [DecidableEq κ] (t : Table ρ key) (k : κ) : Table ρ key where
  rows := t.rows.filter (fun r => decide (key r ≠ k))
  nodup := t.nodup.sublist (List.filter_sublist.map key)

theorem get?_erase [DecidableEq κ] (t : Table ρ key) (k k' : κ) :
    (t.erase k).get? k' = if k = k' then none else t.get? k' := by
  by_cases hkey : k = k'
  · rw [if_pos hkey]
    cases hget : (t.erase k).get? k' with
    | none => rfl
    | some r =>
      rcases get?_eq_some_iff.1 hget with ⟨hmem, hr⟩
      have hne : key r ≠ k := of_decide_eq_true (List.mem_filter.1 hmem).2
      exact absurd (hr.trans hkey.symm) hne
  · rw [if_neg hkey]
    cases hget : t.get? k' with
    | none =>
      cases herased : (t.erase k).get? k' with
      | none => rfl
      | some r =>
        rcases get?_eq_some_iff.1 herased with ⟨hmem, hr⟩
        have hold : t.get? k' = some r :=
          get?_eq_some_iff.2 ⟨(List.mem_filter.1 hmem).1, hr⟩
        rw [hget] at hold
        cases hold
    | some r =>
      rcases get?_eq_some_iff.1 hget with ⟨hmem, hr⟩
      have hne : key r ≠ k := fun h => hkey (h.symm.trans hr)
      exact get?_eq_some_iff.2 ⟨List.mem_filter.2 ⟨hmem, decide_eq_true hne⟩, hr⟩

/-! ## Replacement -/

/-- Append a row, or put it in the place of the one with its key. -/
def put [DecidableEq κ] (t : Table ρ key) (r : ρ) : Table ρ key :=
  match t.insert? r with
  | some t' => t'
  | none =>
    t.modify (fun _ => true) (fun r' => if key r' = key r then r else r') (by
      intro r'
      by_cases h : key r' = key r <;> simp [h])

theorem get?_put [DecidableEq κ] (t : Table ρ key) (r : ρ) (k : κ) :
    (t.put r).get? k = if key r = k then some r else t.get? k := by
  unfold put
  cases hins : t.insert? r with
  | some t' =>
    by_cases h : key r = k
    · have hmem : r ∈ t' := by
        rw [mem_def, insert?_eq_some hins]
        exact List.mem_append_right _ (List.mem_singleton_self r)
      rw [if_pos h]
      exact get?_eq_some_iff.2 ⟨hmem, h⟩
    · rw [if_neg h]
      exact get?_insert_of_ne hins h
  | none =>
    simp only [get?_modify, if_true]
    by_cases h : key r = k
    · -- The key is taken, so there is a row to replace.
      have htaken : key r ∈ t.rows.map key := by
        by_contra hfree
        simp [insert?, hfree] at hins
      rcases List.mem_map.1 htaken with ⟨old, hold, hkey⟩
      have hget : t.get? k = some old := get?_eq_some_iff.2 ⟨hold, hkey.trans h⟩
      simp [hget, hkey, h]
    · rw [if_neg h]
      cases hget : t.get? k with
      | none => rfl
      | some old =>
        have hkey := (get?_eq_some_iff.1 hget).2
        have hne : ¬ key old = key r := by
          rw [hkey]
          exact fun heq => h heq.symm
        simp [hne]

/-! ## Evolution -/

/-- `t'` keeps the rows of `t` in place, each rewritten along `R` under its key, and appends rows
that satisfy `N`. -/
def Evolves (R : ρ → ρ → Prop) (N : ρ → Prop) (t t' : Table ρ key) : Prop :=
  ∃ (g : ρ → ρ) (new : List ρ), t'.rows = t.rows.map g ++ new ∧
    (∀ r ∈ t, key (g r) = key r ∧ R r (g r)) ∧ ∀ r ∈ new, N r

section Evolution

variable {R : ρ → ρ → Prop} {N : ρ → Prop} {t t' : Table ρ key}

theorem evolves_refl (hR : ∀ r ∈ t, R r r) : Evolves R N t t :=
  ⟨id, [], by simp, fun r hr => ⟨rfl, hR r hr⟩, by simp⟩

/-- Updating the selected rows: unselected rows stay, selected rows change by `f`. -/
theorem evolves_modify {sel : ρ → Bool} {f : ρ → ρ} (hf : ∀ r, key (f r) = key r)
    (hstay : ∀ r ∈ t, sel r = false → R r r) (hsel : ∀ r ∈ t, sel r = true → R r (f r)) :
    Evolves R N t (t.modify sel f hf) := by
  refine ⟨fun r => if sel r then f r else r, [], by simp [modify_rows], ?_, by simp⟩
  intro r hr
  by_cases h : sel r = true
  · simpa [h, hf] using hsel r hr h
  · simpa [h] using hstay r hr (by simpa using h)

theorem evolves_insert [DecidableEq κ] {r : ρ} (hins : t.insert? r = some t')
    (hstay : ∀ r ∈ t, R r r) (hr : N r) : Evolves R N t t' :=
  ⟨id, [r], by simp [insert?_eq_some hins], fun r' hr' => ⟨rfl, hstay r' hr'⟩, by simpa using hr⟩

theorem Evolves.mono {R' : ρ → ρ → Prop} {N' : ρ → Prop} (h : Evolves R N t t')
    (hR : ∀ r ∈ t, ∀ r', R r r' → R' r r') (hN : ∀ r, N r → N' r) : Evolves R' N' t t' := by
  rcases h with ⟨g, new, hrows, hg, hnew⟩
  refine ⟨g, new, hrows, ?_, fun r hr => hN r (hnew r hr)⟩
  intro r hr
  rcases hg r hr with ⟨hkey, hstep⟩
  exact ⟨hkey, hR r hr (g r) hstep⟩

/-- Two changes in a row; the rows the first one added may be rewritten by the second. -/
theorem Evolves.comp {R₁ R₂ : ρ → ρ → Prop} {N₁ N₂ : ρ → Prop} {t₁ : Table ρ key}
    (h₁ : Evolves R₁ N₁ t t₁) (h₂ : Evolves R₂ N₂ t₁ t')
    (hold : ∀ r, N₁ r → ∀ r', R₂ r r' → N r') (hnew : ∀ r, N₂ r → N r) :
    Evolves (fun r r' => ∃ m, key m = key r ∧ R₁ r m ∧ R₂ m r') N t t' := by
  rcases h₁ with ⟨g₁, new₁, hrows₁, hg₁, hN₁⟩
  rcases h₂ with ⟨g₂, new₂, hrows₂, hg₂, hN₂⟩
  have hmem : ∀ r ∈ t.rows.map g₁ ++ new₁, r ∈ t₁ := by
    intro r hr
    rw [mem_def, hrows₁]
    exact hr
  refine ⟨g₂ ∘ g₁, new₁.map g₂ ++ new₂, by simp [hrows₂, hrows₁], ?_, ?_⟩
  · intro r hr
    rcases hg₁ r hr with ⟨hkey₁, hstep₁⟩
    rcases hg₂ (g₁ r) (hmem _ (List.mem_append_left _ (List.mem_map_of_mem hr))) with
      ⟨hkey₂, hstep₂⟩
    exact ⟨hkey₂.trans hkey₁, g₁ r, hkey₁, hstep₁, hstep₂⟩
  · intro r hr
    rcases List.mem_append.1 hr with hr | hr
    · rcases List.mem_map.1 hr with ⟨m, hm, rfl⟩
      exact hold m (hN₁ m hm) (g₂ m) (hg₂ m (hmem m (List.mem_append_right _ hm))).2
    · exact hnew r (hN₂ r hr)

/-- A row predicate that rewriting keeps and new rows satisfy holds of every row again. -/
theorem Evolves.forall_mem {J : ρ → Prop} (h : Evolves R N t t') (hJ : ∀ r ∈ t, J r)
    (hR : ∀ r ∈ t, ∀ r', key r' = key r → R r r' → J r → J r') (hN : ∀ r, N r → J r) :
    ∀ r ∈ t', J r := by
  rcases h with ⟨g, new, hrows, hg, hnew⟩
  intro r' hr'
  rw [mem_def, hrows, List.mem_append, List.mem_map] at hr'
  rcases hr' with ⟨r, hr, rfl⟩ | hr'
  · rcases hg r hr with ⟨hkey, hstep⟩
    exact hR r hr (g r) hkey hstep (hJ r hr)
  · exact hN r' (hnew r' hr')

/-- No key is lost. -/
theorem Evolves.exists_mem (h : Evolves R N t t') {r : ρ} (hr : r ∈ t) :
    ∃ r' ∈ t', key r' = key r ∧ R r r' := by
  rcases h with ⟨g, new, hrows, hg, -⟩
  refine ⟨g r, ?_, hg r hr⟩
  rw [mem_def, hrows]
  exact List.mem_append_left _ (List.mem_map_of_mem hr)

/-- Every row is new or comes from a row of its key. -/
theorem Evolves.exists_of_mem (h : Evolves R N t t') {r' : ρ} (hr' : r' ∈ t') :
    N r' ∨ ∃ r ∈ t, key r' = key r ∧ R r r' := by
  rcases h with ⟨g, new, hrows, hg, hnew⟩
  rw [mem_def, hrows, List.mem_append, List.mem_map] at hr'
  rcases hr' with ⟨r, hr, rfl⟩ | hr'
  · exact Or.inr ⟨r, hr, hg r hr⟩
  · exact Or.inl (hnew r' hr')

end Evolution

end Table

/-! ## Append-only logs -/

section Latest

variable {α : Type u}

/-- The first row of the highest rank. -/
def latestBy (rank : α → Int) : List α → Option α
  | [] => none
  | x :: xs =>
    match latestBy rank xs with
    | none => some x
    | some y => if rank y ≤ rank x then some x else some y

@[simp] theorem latestBy_eq_none_iff {rank : α → Int} {xs : List α} :
    latestBy rank xs = none ↔ xs = [] := by
  cases xs with
  | nil => simp [latestBy]
  | cons x xs =>
    simp only [latestBy, reduceCtorEq, iff_false]
    cases latestBy rank xs with
    | none => simp
    | some y => by_cases h : rank y ≤ rank x <;> simp [h]

theorem latestBy_mem {rank : α → Int} {xs : List α} {y : α} (h : latestBy rank xs = some y) :
    y ∈ xs := by
  induction xs generalizing y with
  | nil => simp [latestBy] at h
  | cons x xs ih =>
    simp only [latestBy] at h
    cases hrest : latestBy rank xs with
    | none =>
      simp only [hrest, Option.some.injEq] at h
      simp [h]
    | some z =>
      simp only [hrest] at h
      by_cases hle : rank z ≤ rank x
      · simp only [hle, if_true, Option.some.injEq] at h
        simp [h]
      · simp only [hle, if_false, Option.some.injEq] at h
        exact List.mem_cons_of_mem x (h ▸ ih hrest)

/-- No row of the log outranks the latest one. -/
theorem rank_le_latestBy {rank : α → Int} {xs : List α} {y : α} (h : latestBy rank xs = some y) :
    ∀ x ∈ xs, rank x ≤ rank y := by
  induction xs generalizing y with
  | nil => simp
  | cons a xs ih =>
    simp only [latestBy] at h
    intro x hx
    cases hrest : latestBy rank xs with
    | none =>
      simp only [hrest, Option.some.injEq] at h
      have hnil : xs = [] := latestBy_eq_none_iff.1 hrest
      have hxa : x = a := by simpa [hnil] using hx
      rw [hxa, h]
    | some z =>
      simp only [hrest] at h
      have htail : ∀ x ∈ xs, rank x ≤ rank z := ih hrest
      by_cases hle : rank z ≤ rank a
      · simp only [hle, if_true, Option.some.injEq] at h
        subst h
        rcases List.mem_cons.1 hx with rfl | hx
        · exact le_refl _
        · exact le_trans (htail x hx) hle
      · simp only [hle, if_false, Option.some.injEq] at h
        subst h
        rcases List.mem_cons.1 hx with rfl | hx
        · exact le_of_lt (not_le.1 hle)
        · exact htail x hx

/-- A row appended above every other rank is the latest one. -/
theorem latestBy_append_singleton {rank : α → Int} {xs : List α} {x : α}
    (h : ∀ y ∈ xs, rank y < rank x) : latestBy rank (xs ++ [x]) = some x := by
  induction xs with
  | nil => rfl
  | cons a xs ih =>
    have htail : latestBy rank (xs ++ [x]) = some x :=
      ih (fun y hy => h y (List.mem_cons_of_mem a hy))
    have ha : ¬ rank x ≤ rank a := not_le.2 (h a (by simp))
    simp [latestBy, htail, ha]

end Latest

end Library
end MoneyMachine
