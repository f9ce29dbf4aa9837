import DealFlow.Fulfillment.Allocation

/-!
# What choosing the warehouses keeps

The planner restricts itself to a set of warehouses before it allocates.  `KeepsStock` says what
such a restriction must not lose: for every demanded product the chosen warehouses either cover
the demand, or hold all the stock there is.  `chooseWarehouses_keeps` proves it for every
strategy: one covering warehouse, the exhaustive search with its fallback, and the greedy loop,
whose invariant ties the remaining demand to the stock of the warehouses selected so far.
-/

namespace DealFlow

open Lib

/-! ## The demand dictionary -/

theorem demandOf_foldl (lines : List StockableLine) (start : AList fun _ : ℤ => ℤ) (pid : ℤ) :
    demandOf (lines.foldl (fun demand l =>
        demand.insert l.productId ((demand.lookup l.productId).getD 0 + l.requestedQty)) start)
      pid = demandOf start pid + requestedOf lines pid := by
  induction lines generalizing start with
  | nil => simp [requestedOf]
  | cons l ls ih =>
      rw [List.foldl_cons, ih, requestedOf_cons]
      by_cases same : l.productId = pid
      · subst same
        simp only [demandOf, AList.lookup_insert, Option.getD_some, if_true]
        ring
      · have differs : pid ≠ l.productId := Ne.symm same
        simp only [demandOf, AList.lookup_insert_ne differs, same, if_false, zero_add]

theorem mem_keys_foldl (lines : List StockableLine) (start : AList fun _ : ℤ => ℤ) (pid : ℤ) :
    pid ∈ (lines.foldl (fun demand l =>
        demand.insert l.productId ((demand.lookup l.productId).getD 0 + l.requestedQty))
        start).keys ↔
      pid ∈ start.keys ∨ ∃ l ∈ lines, l.productId = pid := by
  induction lines generalizing start with
  | nil => simp
  | cons l ls ih =>
      rw [List.foldl_cons, ih, ← AList.mem_keys, AList.mem_insert, AList.mem_keys]
      constructor
      · rintro ((same | old) | ⟨k, mem, eq⟩)
        · exact .inr ⟨l, List.mem_cons_self, same.symm⟩
        · exact .inl old
        · exact .inr ⟨k, List.mem_cons_of_mem _ mem, eq⟩
      · rintro (old | ⟨k, mem, eq⟩)
        · exact .inl (.inr old)
        · rcases List.mem_cons.mp mem with rfl | later
          · exact .inl (.inl eq.symm)
          · exact .inr ⟨k, later, eq⟩

@[simp] theorem demandOf_totalDemand (lines : List StockableLine) (pid : ℤ) :
    demandOf (totalDemand lines) pid = requestedOf lines pid := by
  rw [totalDemand, demandOf_foldl]
  simp [demandOf]

theorem mem_keys_totalDemand {lines : List StockableLine} {pid : ℤ} :
    pid ∈ (totalDemand lines).keys ↔ ∃ l ∈ lines, l.productId = pid := by
  rw [totalDemand, mem_keys_foldl]
  simp

theorem requestedOf_eq_zero {lines : List StockableLine} {pid : ℤ}
    (absent : pid ∉ (totalDemand lines).keys) : requestedOf lines pid = 0 := by
  have empty : (lines.filter fun l => l.productId = pid) = [] := by
    refine List.filter_eq_nil_iff.mpr fun l mem same => absent ?_
    exact mem_keys_totalDemand.mpr ⟨l, mem, of_decide_eq_true same⟩
  rw [requestedOf, empty]
  rfl

/-! ## Sorting -/

theorem sortWarehouses_perm (ws : List WarehouseInfo) : (sortWarehouses ws).Perm ws :=
  List.perm_insertionSort _ ws

theorem mem_sortWarehouses {ws : List WarehouseInfo} {w : WarehouseInfo} :
    w ∈ sortWarehouses ws ↔ w ∈ ws :=
  (sortWarehouses_perm ws).mem_iff

theorem sortWarehouses_sorted (ws : List WarehouseInfo) :
    (sortWarehouses ws).Pairwise fun v w => warehouseKey v ≤ warehouseKey w := by
  have total : Std.Total fun v w : WarehouseInfo => warehouseKey v ≤ warehouseKey w :=
    ⟨fun _ _ => le_total _ _⟩
  have trans : IsTrans WarehouseInfo fun v w => warehouseKey v ≤ warehouseKey w :=
    ⟨fun _ _ _ => le_trans⟩
  exact List.pairwise_insertionSort _ ws

/-! ## Stock kept by a choice -/

/-- The stock of a product in a set of warehouses. -/
def stockIn (stock : StockTable) (ws : List WarehouseInfo) (pid : ℤ) : ℤ :=
  (stockRow stock ws pid).sum

@[simp] theorem stockIn_nil (stock : StockTable) (pid : ℤ) : stockIn stock [] pid = 0 := rfl

@[simp] theorem stockIn_cons (stock : StockTable) (w : WarehouseInfo) (ws : List WarehouseInfo)
    (pid : ℤ) : stockIn stock (w :: ws) pid = stock w.warehouseId pid + stockIn stock ws pid :=
  rfl

theorem stockIn_append (stock : StockTable) (vs ws : List WarehouseInfo) (pid : ℤ) :
    stockIn stock (vs ++ ws) pid = stockIn stock vs pid + stockIn stock ws pid := by
  simp [stockIn, stockRow]

theorem stockIn_perm (stock : StockTable) {vs ws : List WarehouseInfo} (perm : vs.Perm ws)
    (pid : ℤ) : stockIn stock vs pid = stockIn stock ws pid :=
  (perm.map _).sum_eq

theorem stockIn_nonneg {stock : StockTable} (stocked : ∀ wid pid, 0 ≤ stock wid pid)
    (ws : List WarehouseInfo) (pid : ℤ) : 0 ≤ stockIn stock ws pid := by
  refine List.sum_nonneg fun x mem => ?_
  obtain ⟨w, -, rfl⟩ := List.mem_map.mp mem
  exact stocked _ _

theorem stockIn_eq_zero {stock : StockTable} {ws : List WarehouseInfo} {pid : ℤ}
    (empty : ∀ w ∈ ws, stock w.warehouseId pid = 0) : stockIn stock ws pid = 0 := by
  refine List.sum_eq_zero fun x mem => ?_
  obtain ⟨w, memW, rfl⟩ := List.mem_map.mp mem
  exact empty w memW

/-- Dropping warehouses without stock of the product leaves its total. -/
theorem stockIn_filter {stock : StockTable} {ws : List WarehouseInfo} {pid : ℤ}
    {keep : WarehouseInfo → Bool} (empty : ∀ w ∈ ws, keep w = false → stock w.warehouseId pid = 0) :
    stockIn stock (ws.filter keep) pid = stockIn stock ws pid := by
  induction ws with
  | nil => rfl
  | cons w ws ih =>
      have tail := ih fun v mem => empty v (List.mem_cons_of_mem _ mem)
      cases kept : keep w with
      | true => rw [List.filter_cons_of_pos kept, stockIn_cons, stockIn_cons, tail]
      | false =>
          have zero := empty w List.mem_cons_self kept
          rw [List.filter_cons_of_neg (by simp [kept]), stockIn_cons, tail, zero, zero_add]

/-- The chosen warehouses are some of the candidates, and for every demanded product they cover
the demand or hold all the candidates' stock. -/
structure KeepsStock (stock : StockTable) (pids : List ℤ) (demand : ℤ → ℤ)
    (candidates chosen : List WarehouseInfo) : Prop where
  subperm : chosen.Subperm candidates
  keeps : ∀ pid ∈ pids, demand pid ≤ stockIn stock chosen pid ∨
    stockIn stock chosen pid = stockIn stock candidates pid

theorem KeepsStock.refl (stock : StockTable) (pids : List ℤ) (demand : ℤ → ℤ)
    (candidates : List WarehouseInfo) : KeepsStock stock pids demand candidates candidates :=
  ⟨List.Subperm.refl _, fun _ _ => .inr rfl⟩

theorem KeepsStock.mem {stock : StockTable} {pids : List ℤ} {demand : ℤ → ℤ}
    {candidates chosen : List WarehouseInfo} {w : WarehouseInfo}
    (h : KeepsStock stock pids demand candidates chosen) (mem : w ∈ chosen) : w ∈ candidates :=
  h.subperm.subset mem

theorem KeepsStock.ids_nodup {stock : StockTable} {pids : List ℤ} {demand : ℤ → ℤ}
    {candidates chosen : List WarehouseInfo}
    (h : KeepsStock stock pids demand candidates chosen)
    (distinct : (candidates.map (·.warehouseId)).Nodup) :
    (chosen.map (·.warehouseId)).Nodup := by
  rcases h.subperm with ⟨middle, perm, sub⟩
  exact (perm.map _).nodup_iff.mp ((sub.map _).nodup distinct)

/-- What a choice leaves unmet of a demand is what all candidates would leave unmet. -/
theorem KeepsStock.unmet_eq {stock : StockTable} {pids : List ℤ} {demand : ℤ → ℤ}
    {candidates chosen : List WarehouseInfo}
    (h : KeepsStock stock pids demand candidates chosen)
    (stocked : ∀ wid pid, 0 ≤ stock wid pid) {pid : ℤ} (mem : pid ∈ pids) :
    max 0 (demand pid - stockIn stock chosen pid) =
      max 0 (demand pid - stockIn stock candidates pid) := by
  rcases h.keeps pid mem with covered | all
  · rcases h.subperm with ⟨middle, perm, sub⟩
    have part : stockIn stock chosen pid ≤ stockIn stock candidates pid := by
      rw [← stockIn_perm stock perm pid]
      exact (sub.map _).sum_le_sum (stockRow_nonneg stocked candidates pid)
    omega
  · rw [all]

/-! ## The single warehouse and the exhaustive search -/

section Strategies

variable {stock : StockTable} {demand : AList fun _ : ℤ => ℤ} {ws : List WarehouseInfo}

theorem canCover_iff {s : List WarehouseInfo} :
    canCover stock demand s = true ↔
      ∀ pid ∈ demand.keys, demandOf demand pid ≤ stockIn stock s pid := by
  simp [canCover, stockIn, stockRow]

theorem mem_fullCoverageCandidates {w : WarehouseInfo} :
    w ∈ fullCoverageCandidates stock demand ws ↔
      w ∈ ws ∧ ∀ pid ∈ demand.keys, demandOf demand pid ≤ stock w.warehouseId pid := by
  simp [fullCoverageCandidates]

theorem singleChoice_keeps {w : WarehouseInfo}
    (candidate : w ∈ fullCoverageCandidates stock demand ws) :
    KeepsStock stock demand.keys (demandOf demand) ws [w] := by
  obtain ⟨mem, covers⟩ := mem_fullCoverageCandidates.mp candidate
  refine ⟨(List.singleton_sublist.mpr mem).subperm, fun pid memPid => .inl ?_⟩
  simpa using covers pid memPid

theorem exhaustiveChoice_keeps (stocked : ∀ wid pid, 0 ≤ stock wid pid) :
    KeepsStock stock demand.keys (demandOf demand) ws (exhaustiveChoice stock demand ws) := by
  unfold exhaustiveChoice
  split
  · next subset found =>
      obtain ⟨sub, -, covers, -⟩ := searchBySize_some (List.pairwise_lt_range') found
      exact ⟨sub.subperm, fun pid mem => .inl (canCover_iff.mp covers pid mem)⟩
  · dsimp only
    split
    · exact KeepsStock.refl _ _ _ _
    · refine ⟨List.filter_sublist.subperm, fun pid mem => .inr ?_⟩
      refine stockIn_filter fun w _ dropped => ?_
      have none := List.any_eq_false.mp dropped pid mem
      have nonpos := of_decide_eq_false (Bool.eq_false_iff.mpr none)
      exact le_antisymm (not_lt.mp nonpos) (stocked _ _)

end Strategies

/-! ## The greedy loop -/

section Greedy

variable {stock : StockTable} {pids : List ℤ}

theorem coverageGain_nonneg {remaining : ℤ → ℤ} (stocked : ∀ wid pid, 0 ≤ stock wid pid)
    (open' : ∀ pid ∈ pids, 0 ≤ remaining pid) (w : WarehouseInfo) :
    0 ≤ coverageGain stock pids remaining w := by
  refine List.sum_nonneg fun x mem => ?_
  obtain ⟨pid, memPid, rfl⟩ := List.mem_map.mp mem
  exact le_min (stocked _ _) (open' pid memPid)

/-- A warehouse without gain has, of every product, no stock or no remaining demand. -/
theorem min_eq_zero_of_gain {remaining : ℤ → ℤ} (stocked : ∀ wid pid, 0 ≤ stock wid pid)
    (open' : ∀ pid ∈ pids, 0 ≤ remaining pid) {w : WarehouseInfo}
    (none : coverageGain stock pids remaining w = 0) {pid : ℤ} (mem : pid ∈ pids) :
    min (stock w.warehouseId pid) (remaining pid) = 0 := by
  have nonneg : ∀ x ∈ pids.map fun pid => min (stock w.warehouseId pid) (remaining pid), 0 ≤ x := by
    intro x memX
    obtain ⟨q, memQ, rfl⟩ := List.mem_map.mp memX
    exact le_min (stocked _ _) (open' q memQ)
  have bound := List.single_le_sum nonneg _ (List.mem_map.mpr ⟨pid, mem, rfl⟩)
  have sumZero : (pids.map fun pid => min (stock w.warehouseId pid) (remaining pid)).sum = 0 := none
  rw [sumZero] at bound
  exact le_antisymm bound (le_min (stocked _ _) (open' pid mem))

/-- The invariant of the greedy loop: pool and selection make up the candidates, and what remains
of a product's demand is what the selection leaves unmet of it. -/
structure GreedyInvariant (stock : StockTable) (pids : List ℤ) (demand : ℤ → ℤ)
    (candidates : List WarehouseInfo) (remaining : ℤ → ℤ) (pool selected : List WarehouseInfo) :
    Prop where
  split : (selected ++ pool).Perm candidates
  remains : ∀ pid ∈ pids, remaining pid = max 0 (demand pid - stockIn stock selected pid)

theorem GreedyInvariant.remaining_nonneg {demand : ℤ → ℤ} {candidates : List WarehouseInfo}
    {remaining : ℤ → ℤ} {pool selected : List WarehouseInfo}
    (inv : GreedyInvariant stock pids demand candidates remaining pool selected) :
    ∀ pid ∈ pids, 0 ≤ remaining pid := by
  intro pid mem
  rw [inv.remains pid mem]
  exact le_max_left _ _

/-- One turn of the loop moves the chosen warehouse from the pool to the selection. -/
theorem GreedyInvariant.select {demand : ℤ → ℤ} {candidates : List WarehouseInfo}
    {remaining : ℤ → ℤ} {pool selected : List WarehouseInfo}
    (stocked : ∀ wid pid, 0 ≤ stock wid pid)
    (inv : GreedyInvariant stock pids demand candidates remaining pool selected)
    {w : WarehouseInfo} (mem : w ∈ pool) :
    GreedyInvariant stock pids demand candidates (serve stock pids remaining w) (pool.erase w)
      (selected ++ [w]) := by
  constructor
  · rw [List.append_assoc, List.singleton_append]
    exact ((List.perm_cons_erase mem).symm.append_left selected).trans inv.split
  · intro pid memPid
    have before := inv.remains pid memPid
    have nonneg := stocked w.warehouseId pid
    rw [serve, if_pos memPid, stockIn_append, stockIn_cons, stockIn_nil]
    omega

/-- The loop ends with every product's demand covered or no useful stock left in the pool. -/
theorem greedySelect_keeps {demand : ℤ → ℤ} {candidates : List WarehouseInfo}
    (stocked : ∀ wid pid, 0 ≤ stock wid pid) (remaining : ℤ → ℤ)
    (pool selected : List WarehouseInfo)
    (inv : GreedyInvariant stock pids demand candidates remaining pool selected) :
    KeepsStock stock pids demand candidates (greedySelect stock pids remaining pool selected) := by
  have subperm : selected.Subperm candidates :=
    (List.sublist_append_left selected pool).subperm.trans inv.split.subperm
  have poolLeft : ∀ pid, stockIn stock candidates pid =
      stockIn stock selected pid + stockIn stock pool pid := fun pid => by
    rw [← stockIn_append, stockIn_perm stock inv.split]
  rw [greedySelect]
  split
  · split
    · next empty =>
        -- the pool is used up: the selection is every candidate
        have nil := List.argmax_eq_none.mp empty
        refine ⟨subperm, fun pid _ => .inr ?_⟩
        rw [poolLeft, nil, stockIn_nil, add_zero]
    · next w best =>
        have mem : w ∈ pool := List.argmax_mem best
        split
        · next gain =>
            -- the best gain is 0, so nobody in the pool serves any remaining demand
            refine ⟨subperm, fun pid memPid => ?_⟩
            have remains := inv.remains pid memPid
            rcases eq_or_ne (remaining pid) 0 with served | open'
            · exact .inl (by omega)
            · refine .inr ?_
              have noStock : stockIn stock pool pid = 0 := by
                refine stockIn_eq_zero fun v memV => ?_
                have le := Prod.Lex.monotone_fst _ _ (List.le_of_mem_argmax memV best)
                have nonneg := coverageGain_nonneg stocked inv.remaining_nonneg v
                have zero : coverageGain stock pids remaining v = 0 :=
                  le_antisymm (le.trans gain.le) nonneg
                have min0 := min_eq_zero_of_gain stocked inv.remaining_nonneg zero memPid
                have pos : 0 < remaining pid :=
                  lt_of_le_of_ne (inv.remaining_nonneg pid memPid) (Ne.symm open')
                omega
              rw [poolLeft, noStock, add_zero]
        · exact greedySelect_keeps stocked _ _ _ (inv.select stocked mem)
  · next served =>
      refine ⟨subperm, fun pid memPid => .inl ?_⟩
      have none := List.any_eq_false.mp (Bool.eq_false_iff.mpr served) pid memPid
      have nonpos : ¬0 < remaining pid := of_decide_eq_false (Bool.eq_false_iff.mpr none)
      have remains := inv.remains pid memPid
      omega
termination_by pool.length
decreasing_by
  have pos := List.length_pos_of_mem mem
  rw [List.length_erase_of_mem mem]
  omega

theorem greedyChoice_keeps {demand : AList fun _ : ℤ => ℤ} {ws : List WarehouseInfo}
    (stocked : ∀ wid pid, 0 ≤ stock wid pid) (demanded : ∀ pid, 0 ≤ demandOf demand pid) :
    KeepsStock stock demand.keys (demandOf demand) ws (greedyChoice stock demand ws) := by
  unfold greedyChoice
  dsimp only
  split
  · exact KeepsStock.refl _ _ _ _
  · refine greedySelect_keeps stocked _ _ _ ⟨List.Perm.refl _, fun pid _ => ?_⟩
    have nonneg := demanded pid
    rw [stockIn_nil]
    omega

end Greedy

/-- No strategy loses stock that could serve the demand. -/
theorem chooseWarehouses_keeps {stock : StockTable} {demand : AList fun _ : ℤ => ℤ}
    (ws : List WarehouseInfo) (stocked : ∀ wid pid, 0 ≤ stock wid pid)
    (demanded : ∀ pid, 0 ≤ demandOf demand pid) (force : Option String) :
    KeepsStock stock demand.keys (demandOf demand) ws
      (chooseWarehouses stock demand ws force).2 := by
  unfold chooseWarehouses
  dsimp only
  split
  · next w single =>
      split at single
      · exact singleChoice_keeps (List.argmin_mem single)
      · cases single
  · split
    · exact exhaustiveChoice_keeps stocked
    · exact greedyChoice_keeps stocked demanded

end DealFlow
