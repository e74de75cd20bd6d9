import MoneyMachine.Assets.BundlePainting
import MoneyMachine.Observability.ReceiptLog

/-!
# BundleManifest — what is read from a manifest that was cut

A cut manifest is read as its first rows or not at all, since no proper cut of a row is JSON.  The rows of
placed artifacts are verified, and a saved binding finds exactly the row of its artifact.
-/

namespace MoneyMachine
namespace Assets

open MoneyMachine.Library
open MoneyMachine.Library.Json
open MoneyMachine.Observability (asciiBytes utf8Decode splitlines splitlinesAux splitlinesAux_line
  splitlinesAux_newline utf8Decode_asciiBytes ascii_of_printable)

/-! ## Rows -/

section Rows

variable {inp : BundleInputs}

/-- The members of a row, in the order of their names. -/
def rowMembers (inp : BundleInputs) (a : Artifact) : List (Text × Value) :=
  [(lit "artifact_id", .str (artifactId inp a.name)),
    (lit "build_version", .int inp.buildVersion),
    (lit "byte_size", .int a.value.length),
    (lit "kind", .str a.kind),
    (lit "parent_artifact_ids", .arr (a.parents.map .str)),
    (lit "product_id", .str (inp.productId.map CodePoint.ofChar)),
    (lit "relative_path", .str a.name),
    (lit "run_id", .str (inp.place.runId.map CodePoint.ofChar)),
    (lit "sha256", .str (sha inp a.value)),
    (lit "spec_version", .int inp.specVersion)]

theorem row_eq (a : Artifact) : a.row inp = .obj (rowMembers inp a) := by
  rfl

theorem sortedItems_str (texts : List Text) : SortedItems (texts.map .str) := by
  rw [sortedItems_iff]
  intro value hvalue
  rcases List.mem_map.1 hvalue with ⟨t, _, rfl⟩
  exact trivial

theorem row_sorted (a : Artifact) : (a.row inp).Sorted := by
  refine ⟨sortedNames_ofPairs _, ?_⟩
  have hmembers := @row_eq inp a
  rw [Artifact.row, Value.obj.injEq] at hmembers
  rw [hmembers]
  exact ⟨trivial, trivial, trivial, trivial, sortedItems_str _, trivial, trivial, trivial, trivial,
    trivial, trivial⟩

theorem row_unpaired {a : Artifact} (h : a.WellNamed) : (a.row inp).Unpaired := by
  have hparents : UnpairedItems (a.parents.map .str) := by
    rw [unpairedItems_iff]
    intro value hvalue
    rcases List.mem_map.1 hvalue with ⟨t, ht, rfl⟩
    exact h.parents t ht
  rw [row_eq]
  exact ⟨unpaired_ofChar _, unpaired_ofChar _, unpaired_ofChar _, trivial, unpaired_ofChar _, trivial,
    unpaired_ofChar _, h.kind, unpaired_ofChar _, hparents, unpaired_ofChar _, unpaired_ofChar _,
    unpaired_ofChar _, h.name.unpaired, unpaired_ofChar _, unpaired_ofChar _, unpaired_ofChar _,
    unpaired_ofChar _, unpaired_ofChar _, trivial, trivial⟩

theorem member_row {a : Artifact} {name : String} {value : Value}
    (h : (lit name, value) ∈ rowMembers inp a) :
    member (a.row inp) name = .ok value := by
  have hsorted := (@row_sorted inp a).1
  have hmembers := @row_eq inp a
  rw [Artifact.row, Value.obj.injEq] at hmembers
  rw [hmembers] at hsorted
  rw [row_eq, member, lookup_of_mem hsorted h]

theorem relativePath_row (a : Artifact) : relativePath (a.row inp) = .ok a.name := by
  have hpath : member (a.row inp) "relative_path" = .ok (.str a.name) := member_row (by simp [rowMembers])
  rw [relativePath, hpath]
  rfl

theorem sha256_row (a : Artifact) :
    member (a.row inp) "sha256" = .ok (.str (sha inp a.value)) :=
  member_row (by simp [rowMembers])

theorem checkBytes_row (a : Artifact) (path : Text) :
    checkBytes inp (a.row inp) path a.value = .ok () := by
  have hsize : member (a.row inp) "byte_size" = .ok (.int a.value.length) :=
    member_row (by simp [rowMembers])
  simp only [checkBytes, hsize, sha256_row, bind, Except.bind, sameSize, sameText, decide_true,
    if_true]

theorem loads_row {a : Artifact} (h : a.WellNamed) :
    loads (dumps .spaced (a.row inp)) = some (a.row inp) :=
  loads_dumps (row_sorted a) (row_unpaired h)

/-- No proper cut of a row is JSON. -/
theorem loads_row_cut {a : Artifact} (h : a.WellNamed) {tail more : List Char}
    (hline : dumps .spaced (a.row inp) = tail ++ more) (hmore : more ≠ []) : loads tail = none := by
  have hsorted := @row_sorted inp a
  have hunpaired := @row_unpaired inp a h
  rw [row_eq] at hline hsorted hunpaired
  exact loads_cut hsorted hunpaired hline hmore

end Rows

/-! ## Cuts -/

section Cuts

variable {inp : BundleInputs}

theorem rowsOf_take (done : List Artifact) (j : Nat) :
    rowsOf inp (done.take j) = (rowsOf inp done).take j :=
  List.map_take ..

theorem length_rowsOf (done : List Artifact) : (rowsOf inp done).length = done.length :=
  List.length_map ..

theorem manifestText_cons (row : Value) (rows : List Value) :
    manifestText (row :: rows) = dumps .spaced row ++ '\n' :: manifestText rows := by
  simp [manifestText]

/-- The lines of a manifest with a tail. -/
theorem splitlines_manifest (rows : List Value) {tail : List Char} (h : Printable tail) :
    splitlines (manifestText rows ++ tail) =
      rows.map (dumps .spaced) ++ (if tail = [] then [] else [tail]) := by
  unfold splitlines
  induction rows with
  | nil =>
    have htail := splitlinesAux_line h [] []
    rw [List.append_nil, List.nil_append] at htail
    rw [manifestText, List.flatMap_nil, List.nil_append, htail]
    rfl
  | cons row rows ih =>
    rw [manifestText_cons, List.append_assoc, splitlinesAux_line (dumps_printable .spaced row),
      List.cons_append, splitlinesAux_newline, ih]
    rfl

theorem loadsAll_rows {done : List Artifact} (h : ∀ a ∈ done, a.WellNamed)
    (more : List (List Char)) :
    loadsAll ((rowsOf inp done).map (dumps .spaced) ++ more) =
      (loadsAll more).map (rowsOf inp done ++ ·) := by
  induction done with
  | nil =>
    cases hmore : loadsAll more <;> simp [rowsOf, hmore]
  | cons a done ih =>
    have hrest := ih (fun b hb => h b (List.mem_cons_of_mem _ hb))
    have hrow := @loads_row inp a (h a (List.mem_cons_self ..))
    rw [rowsOf, List.map_cons, List.map_cons, List.cons_append, loadsAll, hrow]
    rw [rowsOf] at hrest
    rw [hrest]
    cases loadsAll more <;> rfl

/-- A cut of a manifest: whole rows, and the beginning of the next one. -/
theorem manifestText_take (rows : List Value) (k : Nat) :
    ∃ j tail, j ≤ rows.length ∧ (manifestText rows).take k = manifestText (rows.take j) ++ tail ∧
      (tail = [] ∨ ∃ row more, rows[j]? = some row ∧ dumps .spaced row = tail ++ more) := by
  induction rows generalizing k with
  | nil => exact ⟨0, [], Nat.le_refl _, by simp [manifestText], Or.inl rfl⟩
  | cons row rows ih =>
    by_cases hk : k ≤ (dumps .spaced row).length
    · -- The cut is inside the first line, or right behind it.
      refine ⟨0, (dumps .spaced row).take k, Nat.zero_le _, ?_, Or.inr ⟨row, _, rfl,
        (List.take_append_drop k _).symm⟩⟩
      rw [manifestText_cons, List.take_append_of_le_length hk]
      rfl
    · rcases ih (k - (dumps .spaced row).length - 1) with ⟨j, tail, hj, htake, htail⟩
      refine ⟨j + 1, tail, Nat.succ_le_succ hj, ?_, htail⟩
      have hsub : k - (dumps .spaced row).length =
          (k - (dumps .spaced row).length - 1) + 1 := by omega
      rw [manifestText_cons, List.take_append, List.take_of_length_le (by omega), hsub,
        List.take_succ_cons, htake, List.take_succ_cons, manifestText_cons]
      simp

theorem asciiBytes_take (text : List Char) (k : Nat) :
    (asciiBytes text).take k = asciiBytes (text.take k) :=
  List.map_take.symm

theorem manifestText_ascii (rows : List Value) : ∀ c ∈ manifestText rows, c.toNat < 0x80 := by
  intro c hc
  rcases List.mem_flatMap.1 hc with ⟨row, _, hrow⟩
  rcases List.mem_append.1 hrow with h | h
  · exact ascii_of_printable (dumps_printable .spaced row) c h
  · rw [List.mem_singleton.1 h]
    decide

/-- A manifest of whole rows and a tail. -/
theorem readManifest_tail {done : List Artifact} (h : ∀ a ∈ done, a.WellNamed) {tail : List Char}
    (htail : Printable tail) :
    readManifest (asciiBytes (manifestText (rowsOf inp done) ++ tail)) =
      (loadsAll (if tail = [] then [] else [tail])).map (rowsOf inp done ++ ·) := by
  have hascii : ∀ c ∈ manifestText (rowsOf inp done) ++ tail, c.toNat < 0x80 := by
    intro c hc
    rcases List.mem_append.1 hc with hc | hc
    · exact manifestText_ascii _ c hc
    · exact ascii_of_printable htail c hc
  rw [readManifest, utf8Decode_asciiBytes hascii]
  show loadsAll (splitlines (manifestText (rowsOf inp done) ++ tail)) = _
  rw [splitlines_manifest _ htail, loadsAll_rows h]

/-- A cut manifest is read as its first rows, or not at all. -/
theorem readManifest_take {done : List Artifact} (h : ∀ a ∈ done, a.WellNamed) (k : Nat) :
    readManifest ((asciiBytes (manifestText (rowsOf inp done))).take k) = none ∨
      ∃ j, j ≤ done.length ∧
        readManifest ((asciiBytes (manifestText (rowsOf inp done))).take k) =
          some (rowsOf inp (done.take j)) := by
  rcases manifestText_take (rowsOf inp done) k with ⟨j, tail, hj, htake, htail⟩
  rw [length_rowsOf] at hj
  rw [asciiBytes_take, htake, ← rowsOf_take]
  have hfirst : ∀ a ∈ done.take j, a.WellNamed := fun a ha => h a (List.mem_of_mem_take ha)
  rcases htail with rfl | ⟨row, more, hrow, hline⟩
  · refine Or.inr ⟨j, hj, ?_⟩
    rw [readManifest_tail hfirst (by rintro c ⟨⟩)]
    simp [loadsAll]
  · rw [rowsOf, List.getElem?_map, Option.map_eq_some_iff] at hrow
    rcases hrow with ⟨a, ha, rfl⟩
    have hnamed := h a (List.mem_of_getElem? ha)
    have hprintable : Printable tail := by
      intro c hc
      apply dumps_printable .spaced (a.row inp) c
      rw [hline]
      exact List.mem_append_left _ hc
    rw [readManifest_tail hfirst hprintable]
    by_cases hempty : tail = []
    · refine Or.inr ⟨j, hj, ?_⟩
      simp [hempty, loadsAll]
    · rw [if_neg hempty]
      by_cases hmore : more = []
      · -- The whole line, without its newline.
        have hlt : j < done.length := by
          rcases List.getElem?_eq_some_iff.1 ha with ⟨hlt, _⟩
          exact hlt
        refine Or.inr ⟨j + 1, hlt, ?_⟩
        rw [hmore, List.append_nil] at hline
        have hsucc : done.take (j + 1) = done.take j ++ [a] := by
          rw [List.take_add_one, ha]
          rfl
        rw [loadsAll, ← hline, loads_row hnamed, hsucc]
        simp [loadsAll, rowsOf]
      · refine Or.inl ?_
        rw [loadsAll, loads_row_cut hnamed hline hmore]
        rfl

theorem readManifest_whole {done : List Artifact} (h : ∀ a ∈ done, a.WellNamed) :
    readManifest (asciiBytes (manifestText (rowsOf inp done))) = some (rowsOf inp done) := by
  have htail := @readManifest_tail inp done h [] (by rintro c ⟨⟩)
  rw [List.append_nil] at htail
  rw [htail]
  simp [loadsAll]

end Cuts

/-! ## Verification -/

section Verify

variable {inp : BundleInputs}

/-- The rows of placed artifacts are verified. -/
theorem run_verifyRows {done : List Artifact} {files : Files} (h : Placed done files) :
    (verifyRows inp (rowsOf inp done)).run Files.perform () files = (.ok (), files) := by
  induction done with
  | nil => rfl
  | cons a done ih =>
    rcases h a (List.mem_cons_self ..) with ⟨hnamed, hfile⟩
    have hrest := ih (fun b hb => h b (List.mem_cons_of_mem _ hb))
    have hrow : (verifyRow inp (a.row inp)).run Files.perform () files = (.ok (), files) := by
      simp only [verifyRow, relativePath_row, Script.ofExcept_ok_bind, readPath,
        hnamed.name.plain, if_true, Script.run_bind, Script.run_request, Files.perform, hfile,
        checkBytes_row, Script.run_ofExcept]
    rw [rowsOf, List.map_cons, verifyRows, Script.run_bind, hrow]
    exact hrest

/-- `directory / name` tells the names of the directory apart. -/
theorem under_injective {place : Place} {name other : Text} (hname : isPlain name = true)
    (hother : isPlain other = true) (h : place.under name = place.under other) : name = other := by
  rw [Place.under, Place.under, if_pos hname, if_pos hother] at h
  split_ifs at h
  · exact h
  · exact List.append_cancel_left h
  · exact List.append_cancel_left h

/-- The rows that a binding finds. -/
theorem matchedRows_rowsOf (asset : BoundAsset) (done : List Artifact) :
    matchedRows inp asset (rowsOf inp done) =
      .ok (rowsOf inp (done.filter (fun a => decide (inp.place.under a.name = asset.storageUri)))) := by
  induction done with
  | nil => rfl
  | cons a done ih =>
    rw [rowsOf, List.map_cons, matchedRows, relativePath_row]
    rw [rowsOf] at ih
    simp only [bind, Except.bind, ih]
    by_cases h : inp.place.under a.name = asset.storageUri
    · simp [h, rowsOf]
    · simp [h]

theorem filter_name {done : List Artifact} (hnodup : (namesOf done).Nodup) {a : Artifact}
    (ha : a ∈ done) {p : Artifact → Bool} (hp : ∀ b ∈ done, p b = true ↔ b.name = a.name) :
    done.filter p = [a] := by
  induction done with
  | nil => cases ha
  | cons b done ih =>
    rw [namesOf, List.map_cons, List.nodup_cons] at hnodup
    have hrest := fun c hc => hp c (List.mem_cons_of_mem b hc)
    rcases List.mem_cons.1 ha with rfl | ha
    · have hself : p a = true := (hp a (List.mem_cons_self ..)).2 rfl
      have hnone : done.filter p = [] := by
        rw [List.filter_eq_nil_iff]
        intro c hc hpc
        exact hnodup.1 (List.mem_map.2 ⟨c, hc, (hrest c hc).1 hpc⟩)
      rw [List.filter_cons_of_pos hself, hnone]
    · have hne : ¬ p b = true := by
        intro hpb
        have hname := (hp b (List.mem_cons_self ..)).1 hpb
        exact hnodup.1 (List.mem_map.2 ⟨a, ha, hname.symm⟩)
      rw [List.filter_cons_of_neg hne]
      exact ih hnodup.2 ha hrest

/-- A binding is confirmed by the rows that hold its artifact. -/
theorem checkAsset_ok {done : List Artifact} (hnamed : ∀ a ∈ done, a.WellNamed)
    (hnodup : (namesOf done).Nodup) {a : Artifact} (ha : a ∈ done) {asset : BoundAsset}
    (hasset : a.asset inp = some asset) : checkAsset inp (rowsOf inp done) asset = .ok () := by
  have hplace : asset.storageUri = inp.place.under a.name ∧ asset.outputSha256 = sha inp a.value := by
    rcases Option.map_eq_some_iff.1 hasset with ⟨bound, _, rfl⟩
    exact ⟨rfl, rfl⟩
  have hfilter := filter_name hnodup ha
    (p := fun b => decide (inp.place.under b.name = asset.storageUri)) (by
      intro b hb
      rw [decide_eq_true_eq, hplace.1]
      constructor
      · exact under_injective (hnamed b hb).name.plain (hnamed a ha).name.plain
      · intro hname
        rw [hname])
  rw [checkAsset, matchedRows_rowsOf, hfilter]
  simp only [bind, Except.bind, rowsOf, List.map_cons, List.map_nil, sha256_row, sameText, hplace.2,
    decide_true, if_true]

/-- A binding is refused where no row has its place. -/
theorem checkAsset_missing {done : List Artifact} {asset : BoundAsset}
    (h : ∀ a ∈ done, inp.place.under a.name ≠ asset.storageUri) :
    checkAsset inp (rowsOf inp done) asset = .error .bindingDisagrees := by
  have hfilter : done.filter (fun a => decide (inp.place.under a.name = asset.storageUri)) = [] := by
    rw [List.filter_eq_nil_iff]
    intro a ha
    simpa using h a ha
  rw [checkAsset, matchedRows_rowsOf, hfilter]
  rfl

theorem checkAssets_ok {rows : List Value} {assets : List BoundAsset}
    (h : ∀ asset ∈ assets, checkAsset inp rows asset = .ok ()) :
    checkAssets inp rows assets = .ok () := by
  induction assets with
  | nil => rfl
  | cons asset assets ih =>
    rw [checkAssets, h asset (List.mem_cons_self ..)]
    exact ih (fun other hother => h other (List.mem_cons_of_mem _ hother))

theorem checkAssets_error {rows : List Value} {assets : List BoundAsset} {asset : BoundAsset}
    (hmem : asset ∈ assets) {e : BundleError} (h : checkAsset inp rows asset = .error e) :
    checkAssets inp rows assets ≠ .ok () := by
  induction assets with
  | nil => cases hmem
  | cons other assets ih =>
    intro hok
    rw [checkAssets] at hok
    rcases List.mem_cons.1 hmem with rfl | hmem
    · rw [h] at hok
      cases hok
    · cases hother : checkAsset inp rows other with
      | error e =>
        rw [hother] at hok
        cases hok
      | ok u =>
        rw [hother] at hok
        exact ih hmem hok

end Verify

end Assets
end MoneyMachine
