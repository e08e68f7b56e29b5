import Mathlib.Data.List.Forall2
import Kapsl.Ort.Notices

/-!
# Ort/LinkedPackages — the walk over the dependency graph does not depend on how it is listed

A dictionary by ID keeps the last item of an ID, so it forgets the order of its items once their IDs
are distinct (`lookup_byId`).  The walk visits what is reachable from the root along normal edges,
and returns exactly when every node it reaches is complete (`linkPending_eq_ok`).  So metadata that
differ in the order of their arrays only (`Reordered`) link the same packages
(`linkedPackageIds_reordered`).
-/

namespace Kapsl.Ort.Notices

open Vllm (Json)

namespace Run

variable (run : Run)

/-! ## Dictionaries by ID -/

/-- The ID of an item that has one. -/
def idOf (item : Json) : Option String := (item.get? "id").map run.host.str

/-- No two items have one ID. -/
def UniqueIds (items : List Json) : Prop := (items.filterMap run.idOf).Nodup

variable {run}

theorem byId_append_singleton (items : List Json) (item : Json) :
    run.byId (items ++ [item]) =
      match run.idOf item with
      | some id => (run.byId items).insert id item
      | none => run.byId items := by
  rw [byId, List.foldl_append, idOf]
  cases hid : item.get? "id" with
  | none => rw [List.foldl_cons, List.foldl_nil, hid]; rfl
  | some id => rw [List.foldl_cons, List.foldl_nil, hid]; rfl

/-- **With distinct IDs** the dictionary holds the items as they are. -/
theorem lookup_byId {items : List Json} (h : run.UniqueIds items) {id : String} {item : Json} :
    (run.byId items).lookup id = some item ↔ item ∈ items ∧ run.idOf item = some id := by
  induction items using List.reverseRecOn with
  | nil => exact ⟨nofun, fun h => absurd h.1 List.not_mem_nil⟩
  | append_singleton items last ih =>
    rw [UniqueIds, List.filterMap_append] at h
    have hitems : run.UniqueIds items := h.of_append_left
    rw [byId_append_singleton, List.mem_append, List.mem_singleton]
    cases hlast : run.idOf last with
    | none =>
      show (run.byId items).lookup id = some item ↔ _
      rw [ih hitems]
      constructor
      · exact fun h => ⟨.inl h.1, h.2⟩
      · rintro ⟨hmem | rfl, hid⟩
        · exact ⟨hmem, hid⟩
        · exact nomatch hlast.symm.trans hid
    | some lastId =>
      show ((run.byId items).insert lastId last).lookup id = some item ↔ _
      have hfresh : ∀ other ∈ items, run.idOf other ≠ some lastId := by
        intro other hother hid
        have hdisjoint := List.disjoint_of_nodup_append h
        exact hdisjoint (List.mem_filterMap.mpr ⟨other, hother, hid⟩) (by simp [hlast])
      by_cases hid : id = lastId
      · subst hid
        rw [AList.lookup_insert]
        constructor
        · rintro ⟨⟩
          exact ⟨.inr rfl, hlast⟩
        · rintro ⟨hmem | rfl, hitem⟩
          · exact absurd hitem (hfresh item hmem)
          · rfl
      · rw [AList.lookup_insert_ne hid, ih hitems]
        constructor
        · exact fun h => ⟨.inl h.1, h.2⟩
        · rintro ⟨hmem | rfl, hitem⟩
          · exact ⟨hmem, hitem⟩
          · exact absurd (Option.some.inj (hlast.symm.trans hitem)).symm hid

end Run

/-! ## Metadata that differ in order -/

/-- An array in another order, up to a relation between the items. -/
inductive ArrayReordered (R : Json → Json → Prop) : Json → Json → Prop
  | same (value : Json) : ArrayReordered R value value
  | list {xs ys zs : List Json} (hitems : List.Forall₂ R xs ys) (hperm : ys.Perm zs) :
    ArrayReordered R (.list xs) (.list zs)

/-- A node whose dependencies stand in another order. -/
structure NodeReordered (node node' : Json) : Prop where
  fields : ∀ name ≠ "deps", node.get? name = node'.get? name
  deps : ArrayReordered Eq (node.get "deps") (node'.get "deps")

/-- **The same metadata** but for the order of the packages, the nodes and their dependencies. -/
structure Reordered (metadata metadata' : Json) : Prop where
  packages : ArrayReordered Eq (metadata.get "packages") (metadata'.get "packages")
  nodes : ArrayReordered NodeReordered ((metadata.get "resolve").get "nodes")
    ((metadata'.get "resolve").get "nodes")
  members : metadata.get "workspace_members" = metadata'.get "workspace_members"

theorem NodeReordered.refl (node : Json) : NodeReordered node node := ⟨fun _ _ => rfl, .same _⟩

theorem Reordered.refl (metadata : Json) : Reordered metadata metadata :=
  ⟨.same _, .same _, rfl⟩

/-- Arrays in another order: items for items, up to the relation. -/
theorem ArrayReordered.items {R : Json → Json → Prop} (hrefl : ∀ x, R x x) {value value' : Json}
    (h : ArrayReordered R value value') :
    ∃ ys, List.Forall₂ R value.items ys ∧ ys.Perm value'.items := by
  cases h with
  | same => exact ⟨value.items, List.forall₂_same.mpr fun x _ => hrefl x, .refl _⟩
  | list hitems hperm => exact ⟨_, hitems, hperm⟩

theorem ArrayReordered.eq_list {R : Json → Json → Prop} {value value' : Json} {items : List Json}
    (h : ArrayReordered R value value') (hvalue : value = .list items) :
    ∃ items', value' = .list items' := by
  cases h with
  | same => exact ⟨items, hvalue⟩
  | list => exact ⟨_, rfl⟩

namespace Run

variable {run : Run}

theorem idOf_eq_of_nodeReordered {node node' : Json} (h : NodeReordered node node') :
    run.idOf node = run.idOf node' := by
  rw [idOf, idOf, h.fields "id" (by decide)]

/-- An item of a list has one that it is related to. -/
theorem exists_of_forall₂ {R : Json → Json → Prop} {xs ys : List Json} {x : Json}
    (h : List.Forall₂ R xs ys) (hx : x ∈ xs) : ∃ y ∈ ys, R x y := by
  induction h with
  | nil => exact absurd hx List.not_mem_nil
  | cons hxy _ ih =>
    rcases List.mem_cons.mp hx with rfl | hx
    · exact ⟨_, List.mem_cons_self, hxy⟩
    · obtain ⟨y, hy, hxy⟩ := ih hx
      exact ⟨y, List.mem_cons_of_mem _ hy, hxy⟩

theorem uniqueIds_of_forall₂ {R : Json → Json → Prop} {xs ys : List Json}
    (hid : ∀ x y, R x y → run.idOf x = run.idOf y) (h : List.Forall₂ R xs ys)
    (hxs : run.UniqueIds xs) : run.UniqueIds ys := by
  have hids : xs.filterMap run.idOf = ys.filterMap run.idOf := by
    induction h with
    | nil => rfl
    | cons hxy _ ih =>
      rw [List.filterMap_cons, List.filterMap_cons, hid _ _ hxy]
      split
      · next hnone => exact ih (by rwa [UniqueIds, List.filterMap_cons, hid _ _ hxy, hnone] at hxs)
      · next id hsome =>
        rw [UniqueIds, List.filterMap_cons, hid _ _ hxy, hsome] at hxs
        exact congrArg (List.cons id) (ih (List.nodup_cons.mp hxs).2)
  rw [UniqueIds, ← hids]
  exact hxs

/-- **The dictionaries of reordered arrays** hold related items. -/
theorem rel_lookup_byId {R : Json → Json → Prop} {xs ys zs : List Json}
    (hid : ∀ x y, R x y → run.idOf x = run.idOf y) (hitems : List.Forall₂ R xs ys)
    (hperm : ys.Perm zs) (hxs : run.UniqueIds xs) (id : String) :
    Option.Rel R ((run.byId xs).lookup id) ((run.byId zs).lookup id) := by
  have hzs : run.UniqueIds zs :=
    (hperm.filterMap run.idOf).nodup_iff.mp (uniqueIds_of_forall₂ hid hitems hxs)
  have hforth : ∀ x ∈ xs, ∃ z ∈ zs, R x z := fun x hx => by
    obtain ⟨y, hy, hxy⟩ := exists_of_forall₂ hitems hx
    exact ⟨y, hperm.subset hy, hxy⟩
  have hback : ∀ z ∈ zs, ∃ x ∈ xs, R x z := fun z hz =>
    exists_of_forall₂ hitems.flip (hperm.symm.subset hz)
  cases hx : (run.byId xs).lookup id with
  | none =>
    cases hz : (run.byId zs).lookup id with
    | none => exact .none
    | some z =>
      obtain ⟨hmem, hzid⟩ := (lookup_byId hzs).mp hz
      obtain ⟨x, hxmem, hxz⟩ := hback z hmem
      have := (lookup_byId hxs).mpr ⟨hxmem, (hid x z hxz).trans hzid⟩
      exact nomatch this.symm.trans hx
  | some x =>
    obtain ⟨hmem, hxid⟩ := (lookup_byId hxs).mp hx
    obtain ⟨z, hzmem, hxz⟩ := hforth x hmem
    rw [(lookup_byId hzs).mpr ⟨hzmem, (hid x z hxz).symm.trans hxid⟩]
    exact .some hxz

/-- The dependencies of a node, in another order. -/
theorem rel_nodeDeps {nodes nodes' : AList fun _ : String => Json} {id : String}
    (h : Option.Rel NodeReordered (nodes.lookup id) (nodes'.lookup id)) :
    Option.Rel List.Perm (nodeDeps nodes id) (nodeDeps nodes' id) := by
  unfold nodeDeps
  generalize nodes.lookup id = node at h
  generalize nodes'.lookup id = node' at h
  cases h with
  | none => exact .none
  | some hnode =>
    have hdeps := hnode.deps
    dsimp only
    revert hdeps
    generalize Json.get _ "deps" = value
    generalize Json.get _ "deps" = value'
    rintro (_ | ⟨hitems, hperm⟩)
    · cases value with
      | list deps => exact .some (List.Perm.refl deps)
      | _ => exact .none
    · rw [List.forall₂_eq_eq_eq] at hitems
      exact .some (hitems ▸ hperm)

/-! ## The walk -/

variable (run) in
/-- **A dependency edge of a normal kind.** -/
def DependsOn (deps : String → Option (List Json)) (a b : String) : Prop :=
  ∃ list, deps a = some list ∧
    ∃ d ∈ list, isNormal d ∧ ∃ id, d.get? "pkg" = some id ∧ run.host.str id = b

/-- The node is there, and its normal dependencies name their packages. -/
def Complete (deps : String → Option (List Json)) (a : String) : Prop :=
  ∃ list, deps a = some list ∧ ∀ d ∈ list, isNormal d → (d.get? "pkg").isSome

variable (run) in
/-- What a dependency leads to. -/
def successor (d : Json) : Option String :=
  if isNormal d then (d.get? "pkg").map run.host.str else none

theorem pushDependency_eq_ok {pending pushed : List String} {d : Json} :
    run.pushDependency pending d = .ok pushed ↔
      (isNormal d → (d.get? "pkg").isSome) ∧ pushed = (run.successor d).toList ++ pending := by
  unfold pushDependency successor
  split_ifs with hnormal
  · cases d.get? "pkg" with
    | none => exact ⟨nofun, fun h => absurd (h.1 hnormal) nofun⟩
    | some id => exact ⟨fun h => ⟨fun _ => rfl, (Except.ok.inj h).symm⟩, fun h => h.2 ▸ rfl⟩
  · exact ⟨fun h => ⟨fun h' => absurd h' hnormal, (Except.ok.inj h).symm⟩, fun h => h.2 ▸ rfl⟩

/-- **The loop over the dependencies** of a node pushes what they lead to. -/
theorem foldlM_pushDependency_eq_ok {deps : List Json} {pending pushed : List String} :
    deps.foldlM run.pushDependency pending = .ok pushed ↔
      (∀ d ∈ deps, isNormal d → (d.get? "pkg").isSome) ∧
        pushed = (deps.filterMap run.successor).reverse ++ pending := by
  induction deps generalizing pending with
  | nil =>
    rw [List.foldlM_nil, Except.pure_eq_ok]
    exact ⟨fun h => ⟨fun d hd => absurd hd List.not_mem_nil, h.symm⟩, fun h => h.2.symm⟩
  | cons d deps ih =>
    rw [List.foldlM_cons, Except.bind_eq_ok, List.forall_mem_cons]
    simp only [pushDependency_eq_ok, ih]
    have hcons : ∀ rest : List String, ((d :: deps).filterMap run.successor).reverse ++ rest =
        (deps.filterMap run.successor).reverse ++ ((run.successor d).toList ++ rest) := by
      intro rest
      rw [List.filterMap_cons]
      cases run.successor d <;> simp
    rw [hcons]
    constructor
    · rintro ⟨_, ⟨hd, rfl⟩, hdeps, rfl⟩
      exact ⟨⟨hd, hdeps⟩, rfl⟩
    · rintro ⟨⟨hd, hdeps⟩, rfl⟩
      exact ⟨_, ⟨hd, rfl⟩, hdeps, rfl⟩

theorem dependsOn_iff {deps : String → Option (List Json)} {a b : String} {list : List Json}
    (h : deps a = some list) : run.DependsOn deps a b ↔ b ∈ list.filterMap run.successor := by
  have hsuccessor : ∀ d, run.successor d = some b ↔
      isNormal d ∧ ∃ id, d.get? "pkg" = some id ∧ run.host.str id = b := by
    intro d
    unfold successor
    split_ifs with hnormal
    · rw [Option.map_eq_some_iff]
      exact ⟨fun h => ⟨hnormal, h⟩, fun h => h.2⟩
    · exact ⟨nofun, fun h => absurd h.1 hnormal⟩
  rw [List.mem_filterMap]
  simp only [hsuccessor, DependsOn, h, Option.some.injEq, exists_eq_left']

/-- The walk from `root`, with these IDs on its stack. -/
abbrev UnderWay (run : Run) (nodes : AList fun _ : String => Json) (root : String)
    (linked : Finset String) (pending : List String) : Prop :=
  Frontier.Walk (run.DependsOn (nodeDeps nodes)) {root} linked pending

/-- What the walk guarantees of the way it ends. -/
def Ends (run : Run) (nodes : AList fun _ : String => Json) (root : String) :
    Except NoticesError (Finset String) → Prop
  | .ok linked => (∀ id, id ∈ linked ↔
      Frontier.Reachable (run.DependsOn (nodeDeps nodes)) {root} id) ∧
        ∀ id ∈ linked, Complete (nodeDeps nodes) id
  | .error _ => ∃ id, Frontier.Reachable (run.DependsOn (nodeDeps nodes)) {root} id ∧
      ¬Complete (nodeDeps nodes) id

/-- Linking a package pushes what its dependencies lead to. -/
theorem UnderWay.link {nodes : AList fun _ : String => Json} {root id : String}
    {linked : Finset String} {pending : List String} {deps : List Json}
    (h : UnderWay run nodes root linked (id :: pending)) (hdeps : nodeDeps nodes id = some deps) :
    UnderWay run nodes root (insert id linked)
      ((deps.filterMap run.successor).reverse ++ pending) :=
  h.visit (fun _ hx => (dependsOn_iff hdeps).mpr (List.mem_reverse.mp hx))
    fun _ hx => .inr (List.mem_reverse.mpr ((dependsOn_iff hdeps).mp hx))

/-- **Every run of the walk ends as the search does.** -/
theorem linkPending_ends {nodes : AList fun _ : String => Json} {root : String}
    {linked : Finset String} {pending : List String}
    (h : UnderWay run nodes root linked pending)
    (hcomplete : ∀ id ∈ linked, Complete (nodeDeps nodes) id) :
    Ends run nodes root (run.linkPending nodes linked pending) := by
  fun_induction linkPending run nodes linked pending with
  | case1 linked => exact ⟨fun id => h.exact, hcomplete⟩
  | case2 linked id pending hid ih => exact ih (h.skip hid) hcomplete
  | case3 linked id pending hid hdeps =>
    refine ⟨id, h.reachable_top, ?_⟩
    rintro ⟨list, hlist, -⟩
    exact nomatch hlist.symm.trans hdeps
  | case4 linked id pending hid deps hdeps ih =>
    cases hloop : deps.foldlM run.pushDependency pending with
    | error e =>
      refine ⟨id, h.reachable_top, ?_⟩
      rintro ⟨list, hlist, hnamed⟩
      obtain rfl := Option.some.inj (hlist.symm.trans hdeps)
      exact nomatch hloop.symm.trans (foldlM_pushDependency_eq_ok.mpr ⟨hnamed, rfl⟩)
    | ok pushed =>
      obtain ⟨hnamed, rfl⟩ := foldlM_pushDependency_eq_ok.mp hloop
      exact ih _ (h.link hdeps) (Finset.forall_mem_insert _ _ _ |>.mpr
        ⟨⟨deps, hdeps, hnamed⟩, hcomplete⟩)

/-- **The walk returns** what is reachable, exactly when every node it reaches is complete. -/
theorem linkPending_eq_ok {nodes : AList fun _ : String => Json} {root : String}
    {linked : Finset String} :
    run.linkPending nodes ∅ [root] = .ok linked ↔
      (∀ id, id ∈ linked ↔ Frontier.Reachable (run.DependsOn (nodeDeps nodes)) {root} id) ∧
        ∀ id ∈ linked, Complete (nodeDeps nodes) id := by
  have hstart : UnderWay run nodes root ∅ [root] := .start fun _ => List.mem_singleton
  have hends := linkPending_ends hstart fun id hid => absurd hid (Finset.notMem_empty id)
  constructor
  · intro h
    rw [h] at hends
    exact hends
  · rintro ⟨hreach, hcomplete⟩
    cases hresult : run.linkPending nodes ∅ [root] with
    | error e =>
      rw [hresult] at hends
      obtain ⟨id, hid, hincomplete⟩ := hends
      exact absurd (hcomplete id ((hreach id).mpr hid)) hincomplete
    | ok linked' =>
      rw [hresult] at hends
      exact congrArg _ (Finset.ext fun id => (hends.1 id).trans (hreach id).symm)

/-! ## The linked packages -/

variable (run)

/-- The packages of the metadata by their IDs. -/
def packageById (metadata : Json) : AList fun _ : String => Json :=
  run.byId (metadata.get "packages").items

/-- The dependencies of a package, in the graph that Cargo resolved. -/
def deps (metadata : Json) : String → Option (List Json) :=
  nodeDeps (run.byId ((metadata.get "resolve").get "nodes").items)

/-- **The one workspace package** of the name. -/
def IsRoot (metadata : Json) (root : String) : Prop :=
  ∃ packages nodes members id, metadata.get "packages" = .list packages ∧
    (metadata.get "resolve").get "nodes" = .list nodes ∧
    metadata.get "workspace_members" = .list members ∧
    members.filterM (run.isRoot (run.byId packages)) = .ok [id] ∧ run.host.str id = root

/-- **A package other than the root** that normal edges lead to from it. -/
def Links (metadata : Json) (root id : String) : Prop :=
  id ≠ root ∧ Frontier.Reachable (run.DependsOn (run.deps metadata)) {root} id

/-- The IDs of the packages are distinct, and so are those of the nodes. -/
structure DistinctIds (metadata : Json) : Prop where
  packages : run.UniqueIds (metadata.get "packages").items
  nodes : run.UniqueIds ((metadata.get "resolve").get "nodes").items

variable {run} {metadata metadata' : Json}

/-- **What `linked_package_ids` returns.** -/
theorem linkedPackageIds_eq_ok {linked : Finset String} :
    run.linkedPackageIds metadata = .ok linked ↔
      ∃ root, run.IsRoot metadata root ∧ (∀ id, id ∈ linked ↔ run.Links metadata root id) ∧
        ∀ id, Frontier.Reachable (run.DependsOn (run.deps metadata)) {root} id →
          Complete (run.deps metadata) id := by
  constructor
  · intro h
    unfold linkedPackageIds at h
    split at h
    · next packages nodes members hpackages hnodes hmembers =>
      obtain ⟨roots, hroots, h⟩ := Except.bind_eq_ok.mp h
      split at h
      · next id =>
        obtain ⟨visited, hvisited, h⟩ := Except.bind_eq_ok.mp h
        have hdeps : run.deps metadata = nodeDeps (run.byId nodes) := by
          rw [deps, hnodes]
          rfl
        obtain ⟨hreach, hcomplete⟩ := linkPending_eq_ok.mp hvisited
        obtain rfl := Except.ok.inj h
        refine ⟨run.host.str id,
          ⟨packages, nodes, members, id, hpackages, hnodes, hmembers, hroots, rfl⟩, ?_, ?_⟩
        · intro x
          rw [Finset.mem_erase, hreach, Links, hdeps]
        · intro x hx
          rw [hdeps] at hx ⊢
          exact hcomplete x ((hreach x).mpr hx)
      · exact nomatch h
    · exact nomatch h
  · rintro ⟨_, ⟨packages, nodes, members, id, hpackages, hnodes, hmembers, hroots, rfl⟩, hlinked,
      hcomplete⟩
    let root := run.host.str id
    have hdeps : run.deps metadata = nodeDeps (run.byId nodes) := by
      rw [deps, hnodes]
      rfl
    have hroot : root ∉ linked := fun hmem => ((hlinked root).mp hmem).1 rfl
    have hreach : ∀ x, x ∈ insert root linked ↔
        Frontier.Reachable (run.DependsOn (nodeDeps (run.byId nodes))) {root} x := by
      intro x
      rw [Finset.mem_insert, hlinked, Links, hdeps]
      by_cases hx : x = root
      · exact ⟨fun _ => hx ▸ .root rfl, fun _ => .inl hx⟩
      · exact ⟨fun h => (h.resolve_left hx).2, fun h => .inr ⟨hx, h⟩⟩
    have hvisited : run.linkPending (run.byId nodes) ∅ [root] = .ok (insert root linked) :=
      linkPending_eq_ok.mpr ⟨hreach, fun x hx => hdeps ▸ hcomplete x (hdeps ▸ (hreach x).mp hx)⟩
    unfold linkedPackageIds
    rw [hpackages, hnodes, hmembers]
    show (members.filterM _ >>= _) = _
    rw [hroots]
    show (run.linkPending _ ∅ [root] >>= _) = _
    rw [hvisited]
    exact congrArg _ (Finset.erase_insert hroot)

/-! ## The order does not matter -/

theorem dependsOn_congr {deps deps' : String → Option (List Json)}
    (h : ∀ id, Option.Rel List.Perm (deps id) (deps' id)) :
    run.DependsOn deps = run.DependsOn deps' := by
  funext a b
  have ha := h a
  rw [DependsOn, DependsOn, eq_iff_iff]
  generalize deps a = list at ha ⊢
  generalize deps' a = list' at ha ⊢
  cases ha with
  | none => exact Iff.rfl
  | some hperm => simp only [Option.some.injEq, exists_eq_left', hperm.mem_iff]

theorem complete_congr {deps deps' : String → Option (List Json)}
    (h : ∀ id, Option.Rel List.Perm (deps id) (deps' id)) : Complete deps = Complete deps' := by
  funext a
  have ha := h a
  rw [Complete, Complete, eq_iff_iff]
  generalize deps a = list at ha ⊢
  generalize deps' a = list' at ha ⊢
  cases ha with
  | none => exact Iff.rfl
  | some hperm => simp only [Option.some.injEq, exists_eq_left', hperm.mem_iff]

theorem rel_deps (h : Reordered metadata metadata') (hids : run.DistinctIds metadata)
    (id : String) : Option.Rel List.Perm (run.deps metadata id) (run.deps metadata' id) := by
  obtain ⟨nodes, hitems, hperm⟩ := h.nodes.items NodeReordered.refl
  exact rel_nodeDeps (rel_lookup_byId (fun _ _ => idOf_eq_of_nodeReordered) hitems hperm hids.nodes id)

/-- The dictionaries of the packages are the same. -/
theorem lookup_packageById (h : Reordered metadata metadata') (hids : run.DistinctIds metadata)
    (id : String) :
    (run.packageById metadata).lookup id = (run.packageById metadata').lookup id := by
  obtain ⟨packages, hitems, hperm⟩ := h.packages.items fun _ => rfl
  have hrel := rel_lookup_byId (fun _ _ => congrArg run.idOf) hitems hperm hids.packages id
  show (run.byId _).lookup id = (run.byId _).lookup id
  generalize (run.byId (metadata.get "packages").items).lookup id = package at hrel ⊢
  generalize (run.byId (metadata'.get "packages").items).lookup id = package' at hrel ⊢
  cases hrel with
  | none => rfl
  | some heq => exact congrArg some heq

theorem isRoot_congr {packages packages' : AList fun _ : String => Json}
    (h : ∀ id, packages.lookup id = packages'.lookup id) :
    run.isRoot packages = run.isRoot packages' := by
  funext member
  cases member with
  | str id => rw [isRoot, isRoot, h]
  | _ => rfl

theorem IsRoot.reordered {root : String} (h : Reordered metadata metadata')
    (hids : run.DistinctIds metadata) (hroot : run.IsRoot metadata root) :
    run.IsRoot metadata' root := by
  obtain ⟨packages, nodes, members, id, hpackages, hnodes, hmembers, hroots, rfl⟩ := hroot
  obtain ⟨packages', hpackages'⟩ := h.packages.eq_list hpackages
  obtain ⟨nodes', hnodes'⟩ := h.nodes.eq_list hnodes
  refine ⟨packages', nodes', members, id, hpackages', hnodes', h.members ▸ hmembers, ?_, rfl⟩
  have hlookup := lookup_packageById h hids
  rw [packageById, packageById, hpackages, hpackages'] at hlookup
  rw [← hroots]
  exact congrArg (List.filterM · members) (isRoot_congr hlookup).symm

/-- **The order of the arrays** does not matter to what is linked. -/
theorem linkedPackageIds_reordered {linked : Finset String} (h : Reordered metadata metadata')
    (hids : run.DistinctIds metadata) (hlinked : run.linkedPackageIds metadata = .ok linked) :
    run.linkedPackageIds metadata' = .ok linked := by
  obtain ⟨root, hroot, hlinks, hcomplete⟩ := linkedPackageIds_eq_ok.mp hlinked
  have hdeps := rel_deps h hids
  refine linkedPackageIds_eq_ok.mpr ⟨root, hroot.reordered h hids, fun id => ?_, fun id hid => ?_⟩
  · rw [hlinks, Links, Links, dependsOn_congr hdeps]
  · rw [← complete_congr hdeps]
    rw [← dependsOn_congr hdeps] at hid
    exact hcomplete id hid

end Run

end Kapsl.Ort.Notices
