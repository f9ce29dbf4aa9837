import DealFlow.Lib.Dict
import DealFlow.Lib.Forest
import Mathlib.Data.List.Perm.Subperm
import Mathlib.Tactic.Set

/-!
# Category paths of the XML-RPC gateway

`XmlRpcOdooGateway._get_category_hierarchies` of `app/odoo/xmlrpc.py`: from each category the parent
links are followed upwards, so that a path starts at the category itself and ends at a root.

* `CategoryForest.climb_spec`: the loop ends, at the root, with every category on the way.
-/

namespace DealFlow

open Lib

/-- A `product.category` as the gateway reads it. -/
structure ProductCategory where
  id : ℤ
  parentId : Option ℤ
  deriving DecidableEq, Repr

/-- What reading a category returns of its parent; nothing is read of an unknown id. -/
def parentOf (categories : List ProductCategory) (cid : ℤ) : Option ℤ :=
  (categories.find? fun category => category.id = cid).bind (·.parentId)

/-- The loop of a path; the categories visited are those on the path.  A category whose parent is
followed is in the table, so the loop makes at most one round more than the table is long. -/
def climbFrom (categories : List ProductCategory) : ℕ → List ℤ → Option ℤ → List ℤ
  | 0, path, _ => path
  | _ + 1, path, none => path
  | fuel + 1, path, some curr =>
      if curr = 0 ∨ curr ∈ path then path
      else climbFrom categories fuel (path ++ [curr]) (parentOf categories curr)

def categoryHierarchy (categories : List ProductCategory) (cid : ℤ) : List ℤ :=
  climbFrom categories (categories.length + 1) [] (some cid)

/-- `_get_category_hierarchies`. -/
def getCategoryHierarchies (categories : List ProductCategory) (categoryIds : List ℤ) :
    Dict ℤ (List ℤ) :=
  categoryIds.foldl (fun hierarchy cid => hierarchy.set cid (categoryHierarchy categories cid))
    .empty

/-- The path that `get_products` gives a product of a category. -/
def productCategoryPath (categories : List ProductCategory) (categoryIds : List ℤ) (cid : ℤ) :
    List ℤ :=
  ((getCategoryHierarchies categories categoryIds).get cid).getD [cid]

/-- Categories without a cycle; no id is 0. -/
structure CategoryForest where
  categories : List ProductCategory
  ids_ne_zero : ∀ category ∈ categories, category.id ≠ 0 ∧ category.parentId ≠ some 0
  acyclic : ∀ cid,
    ¬ Relation.TransGen (fun c p => parentOf categories c = some p) cid cid

/-! ## Reading all hierarchies -/

theorem foldl_hierarchies_get (categories : List ProductCategory) (categoryIds : List ℤ)
    (hierarchy : Dict ℤ (List ℤ)) (cid : ℤ) :
    (categoryIds.foldl (fun hierarchy cid =>
        hierarchy.set cid (categoryHierarchy categories cid)) hierarchy).get cid =
      if cid ∈ categoryIds then some (categoryHierarchy categories cid)
      else hierarchy.get cid := by
  induction categoryIds generalizing hierarchy with
  | nil => rw [List.foldl_nil, if_neg List.not_mem_nil]
  | cons other categoryIds ih =>
      rw [List.foldl_cons, ih, Dict.get_set]
      by_cases same : cid = other
      · subst same
        simp
      · simp [same]

theorem productCategoryPath_of_mem {categories : List ProductCategory} {categoryIds : List ℤ}
    {cid : ℤ} (mem : cid ∈ categoryIds) :
    productCategoryPath categories categoryIds cid = categoryHierarchy categories cid := by
  unfold productCategoryPath getCategoryHierarchies
  rw [foldl_hierarchies_get, if_pos mem, Option.getD_some]

/-! ## The loop on a forest -/

theorem mem_of_parentOf {categories : List ProductCategory} {cid pid : ℤ}
    (link : parentOf categories cid = some pid) :
    ∃ category ∈ categories, category.id = cid ∧ category.parentId = some pid := by
  obtain ⟨category, found, parent⟩ := Option.bind_eq_some_iff.mp link
  exact ⟨category, List.mem_of_find?_eq_some found, by simpa using List.find?_some found, parent⟩

namespace CategoryForest

variable (forest : CategoryForest)

def parent (cid : ℤ) : Option ℤ :=
  parentOf forest.categories cid

/-- The category is one of the table. -/
def Has (cid : ℤ) : Prop :=
  ∃ category ∈ forest.categories, category.id = cid

variable {forest}

theorem Has.ne_zero {cid : ℤ} (has : forest.Has cid) : cid ≠ 0 := by
  obtain ⟨category, mem, rfl⟩ := has
  exact (forest.ids_ne_zero category mem).1

theorem parent_ne_zero {cid pid : ℤ} (link : forest.parent cid = some pid) : pid ≠ 0 := by
  obtain ⟨category, mem, -, up⟩ := mem_of_parentOf link
  rintro rfl
  exact (forest.ids_ne_zero category mem).2 up

/-- The categories gone through lead to one another and on to the current one. -/
structure OnTheWay (forest : CategoryForest) (path : List ℤ) (curr : ℤ) : Prop where
  nodup : path.Nodup
  leads : ∀ cid ∈ path, Relation.TransGen (fun c p => forest.parent c = some p) cid curr

theorem OnTheWay.notMem {path : List ℤ} {curr : ℤ} (way : forest.OnTheWay path curr) :
    curr ∉ path := fun mem =>
  forest.acyclic curr (way.leads curr mem)

/-- A category gone through has a parent, so it is in the table. -/
theorem OnTheWay.length_le {path : List ℤ} {curr : ℤ} (way : forest.OnTheWay path curr) :
    path.length ≤ forest.categories.length := by
  have sub : path ⊆ forest.categories.map (·.id) := by
    intro cid mem
    obtain ⟨pid, link, -⟩ := Relation.TransGen.head'_iff.mp (way.leads cid mem)
    obtain ⟨category, memTable, same, -⟩ := mem_of_parentOf link
    exact List.mem_map.mpr ⟨category, memTable, same⟩
  have le := (way.nodup.subperm sub).length_le
  rwa [List.length_map] at le

theorem OnTheWay.step {path : List ℤ} {curr pid : ℤ} (way : forest.OnTheWay path curr)
    (link : forest.parent curr = some pid) : forest.OnTheWay (path ++ [curr]) pid := by
  refine ⟨?_, ?_⟩
  · rw [← List.concat_eq_append]
    exact way.nodup.concat way.notMem
  · intro cid mem
    rcases List.mem_append.mp mem with earlier | here
    · exact (way.leads cid earlier).tail link
    · rw [List.mem_singleton.mp here]
      exact .single link

/-- With a round for each category that is not gone through, the loop goes on to the root. -/
theorem climbFrom_spec {fuel : ℕ} {path : List ℤ} {curr : ℤ} (way : forest.OnTheWay path curr)
    (nonzero : curr ≠ 0) (enough : forest.categories.length < path.length + fuel) :
    ∃ rest, climbFrom forest.categories fuel path (some curr) = path ++ rest ∧
      Climb forest.parent curr rest := by
  induction fuel generalizing path curr with
  | zero =>
      have le := way.length_le
      omega
  | succ fuel ih =>
      rw [climbFrom, if_neg (not_or.mpr ⟨nonzero, way.notMem⟩)]
      cases link : parentOf forest.categories curr with
      | none =>
          refine ⟨[curr], ?_, .root link⟩
          cases fuel with
          | zero => rfl
          | succ => rfl
      | some pid =>
          obtain ⟨rest, result, climb⟩ := ih (way.step link) (parent_ne_zero link) (by
            rw [List.length_append, List.length_singleton]
            omega)
          refine ⟨curr :: rest, ?_, .step link climb⟩
          rw [result, List.append_assoc, List.singleton_append]

/-- The path of a category of the table goes up to its root. -/
theorem climb_spec {cid : ℤ} (has : forest.Has cid) :
    Climb forest.parent cid (categoryHierarchy forest.categories cid) := by
  have way : forest.OnTheWay [] cid := ⟨List.nodup_nil, fun other none => absurd none (by simp)⟩
  have enough : forest.categories.length < ([] : List ℤ).length + (forest.categories.length + 1) :=
    by simp
  obtain ⟨rest, result, climb⟩ := climbFrom_spec way has.ne_zero enough
  unfold categoryHierarchy
  rw [result]
  exact climb

end CategoryForest

end DealFlow
