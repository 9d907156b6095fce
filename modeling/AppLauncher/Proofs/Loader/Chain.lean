import AppLauncher.Launch.Builtin
import Mathlib.Tactic.Common

/-!
# Chains of loaders

The loaders of a chain are reached by going up a number of steps (`Loader.ancestor`).  In a proper
chain every loader has a number of its own, and a builtin loader has builtin classes only; chains
that are put together with new numbers are proper (`Loader.Proper.isolated`,
`Loader.proper_builtinClasses`).
-/

namespace AppLauncher

/-! ### Going up a chain -/

namespace Loader

/-- The numbers of the layers of a chain. -/
def ids (loader : Loader) : List Nat := loader.layers.map (·.id)

/-- The loader a number of steps up the chain. -/
def ancestor : Nat → Loader → Loader
  | 0, loader => loader
  | depth + 1, loader => ancestor depth loader.parent

/-- Nothing is above the end of a chain. -/
@[simp] lemma ancestor_absent (depth : Nat) : ancestor depth absent = absent := by
  induction depth with
  | zero => rfl
  | succ depth ih => exact ih

/-- The layers further up are layers of the chain. -/
lemma layers_ancestor (depth : Nat) (loader : Loader) {layer : Layer}
    (h : layer ∈ (loader.ancestor depth).layers) : layer ∈ loader.layers := by
  induction depth generalizing loader with
  | zero => exact h
  | succ depth ih =>
    have hparent := ih loader.parent h
    cases loader with
    | isolated => exact .tail _ hparent
    | absent | builtin | failing => cases hparent

/-- A layer that is reached in a chain is one of the layers of the chain. -/
lemma mem_layers_of_ancestor {loader parent : Loader} {depth : Nat} {layer : Layer}
    (h : loader.ancestor depth = .isolated layer parent) : layer ∈ loader.layers := by
  apply layers_ancestor depth loader
  rw [h]
  exact .head _

/-- Steps up a chain add up. -/
lemma ancestor_ancestor (depth more : Nat) (loader : Loader) :
    (loader.ancestor depth).ancestor more = loader.ancestor (depth + more) := by
  induction depth generalizing loader with
  | zero => rw [Nat.zero_add]; rfl
  | succ depth ih =>
    rw [Nat.succ_add]
    exact ih loader.parent

/-- The parent of a layer is one step further up. -/
lemma ancestor_succ_of_ancestor {loader parent : Loader} {depth : Nat} {layer : Layer}
    (h : loader.ancestor depth = .isolated layer parent) :
    loader.ancestor (depth + 1) = parent := by
  rw [← ancestor_ancestor, h]
  rfl

/-- A number stands for one place of a chain only, if the layers have numbers of their own. -/
lemma ancestor_unique {loader : Loader} (hids : loader.ids.Nodup) {depth depth' : Nat}
    {layer layer' : Layer} {parent parent' : Loader}
    (h : loader.ancestor depth = .isolated layer parent)
    (h' : loader.ancestor depth' = .isolated layer' parent') (hid : layer.id = layer'.id) :
    layer = layer' ∧ parent = parent' := by
  induction loader generalizing depth depth' with
  | absent => cases (ancestor_absent depth).symm.trans h
  | builtin | failing =>
    cases depth with
    | zero => cases h
    | succ depth => cases (ancestor_absent depth).symm.trans h
  | isolated top above ih =>
    obtain ⟨hnot, habove⟩ := List.nodup_cons.mp hids
    cases depth with
    | zero =>
      cases h
      cases depth' with
      | zero =>
        cases h'
        exact ⟨rfl, rfl⟩
      | succ depth' =>
        exact (hnot (List.mem_map.mpr ⟨layer', mem_layers_of_ancestor h', hid.symm⟩)).elim
    | succ depth =>
      cases depth' with
      | zero =>
        cases h'
        exact (hnot (List.mem_map.mpr ⟨layer, mem_layers_of_ancestor h, hid⟩)).elim
      | succ depth' => exact ih habove h h'

/-! ### Proper chains -/

/-- The numbers of all loaders of a chain. -/
def definers : Loader → List Nat
  | absent => []
  | builtin id _ => [id]
  | failing id => [id]
  | isolated layer parent => layer.id :: parent.definers

/-- All loaders of a chain have numbers of their own, and a builtin loader has builtin classes
only. -/
structure Proper (loader : Loader) : Prop where
  nodup : loader.definers.Nodup
  isBuiltin : ∀ depth id classes, loader.ancestor depth = .builtin id classes →
    ∀ name c, classes.get? name = some c → ∃ main, c = builtinClass id name main

/-- The numbers of the layers are among the numbers of all loaders. -/
lemma sublist_definers (loader : Loader) : loader.ids.Sublist loader.definers := by
  induction loader with
  | absent | builtin | failing => exact List.nil_sublist _
  | isolated layer parent ih => exact ih.cons_cons layer.id

/-- The layers of a proper chain have numbers of their own. -/
lemma Proper.nodup_ids {loader : Loader} (h : loader.Proper) : loader.ids.Nodup :=
  h.nodup.sublist loader.sublist_definers

/-- The number of a builtin loader further up is among the numbers of the chain. -/
lemma mem_definers_of_ancestor {loader : Loader} {depth id : Nat} {classes : Table String Class}
    (h : loader.ancestor depth = .builtin id classes) : id ∈ loader.definers := by
  induction loader generalizing depth with
  | absent => cases (ancestor_absent depth).symm.trans h
  | builtin =>
    cases depth with
    | zero =>
      cases h
      exact List.mem_singleton_self id
    | succ depth => cases (ancestor_absent depth).symm.trans h
  | failing =>
    cases depth with
    | zero => cases h
    | succ depth => cases (ancestor_absent depth).symm.trans h
  | isolated layer parent ih =>
    cases depth with
    | zero => cases h
    | succ depth => exact .tail _ (ih h)

/-- The builtin loader of a proper chain does not have the number of a layer. -/
lemma Proper.not_mem_ids {loader : Loader} (h : loader.Proper) {depth id : Nat}
    {classes : Table String Class} (hanc : loader.ancestor depth = .builtin id classes) :
    id ∉ loader.ids := by
  have hnodup := h.nodup
  clear h
  induction loader generalizing depth with
  | absent | builtin | failing => exact List.not_mem_nil
  | isolated layer parent ih =>
    cases depth with
    | zero => cases hanc
    | succ depth =>
      obtain ⟨hnot, hparent⟩ := List.nodup_cons.mp hnodup
      rintro (_ | ⟨_, hmem⟩)
      · exact hnot (mem_definers_of_ancestor hanc)
      · exact ih hanc hparent hmem

/-- A layer over a proper chain makes up a proper chain, if the number of the layer is new. -/
lemma Proper.isolated {layer : Layer} {parent : Loader} (h : parent.Proper)
    (hnew : layer.id ∉ parent.definers) : (Loader.isolated layer parent).Proper := by
  refine ⟨List.nodup_cons.mpr ⟨hnew, h.nodup⟩, ?_⟩
  intro depth id classes hanc
  cases depth with
  | zero => cases hanc
  | succ depth => exact h.isBuiltin depth id classes hanc

/-- What is above the innermost layer of a proper chain is a proper chain. -/
lemma Proper.parent {layer : Layer} {parent : Loader} (h : (Loader.isolated layer parent).Proper) :
    parent.Proper :=
  ⟨(List.nodup_cons.mp h.nodup).2, fun depth => h.isBuiltin (depth + 1)⟩

/-- Going up a proper chain leads to proper chains. -/
lemma Proper.ancestor {loader : Loader} (h : loader.Proper) (depth : Nat) :
    (loader.ancestor depth).Proper := by
  induction depth generalizing loader with
  | zero => exact h
  | succ depth ih =>
    have hparent : loader.parent.Proper := by
      cases loader with
      | isolated layer parent => exact h.parent
      | absent | builtin | failing =>
        refine ⟨List.nodup_nil, fun depth id classes hanc => ?_⟩
        cases (ancestor_absent depth).symm.trans hanc
    exact ih hparent

/-- Classes made from definitions are added to those that a table has already. -/
lemma get?_foldl_builtinClass (id : Nat) (definitions : Builtins) (table : Table String Class)
    (name : String) :
    (definitions.foldl (fun classes (name, main) =>
      classes.insertIfNew name (builtinClass id name main)) table).get? name =
      (table.get? name).or ((definitions.find? fun definition => definition.1 = name).map
        fun definition => builtinClass id name definition.2) := by
  induction definitions generalizing table with
  | nil => exact (Option.or_none ..).symm
  | cons definition definitions ih =>
    obtain ⟨other, main⟩ := definition
    rw [List.foldl_cons, ih, Table.get?_insertIfNew]
    by_cases hname : other = name
    · subst hname
      cases table.get? other <;> simp
    · simp [hname]

/-- The class of a name is made from the first of its definitions. -/
lemma get?_builtinClasses (id : Nat) (definitions : Builtins) (name : String) :
    (builtinClasses id definitions).get? name =
      (definitions.find? fun definition => definition.1 = name).map
        fun definition => builtinClass id name definition.2 := by
  unfold builtinClasses
  rw [get?_foldl_builtinClass, Table.get?_empty, Option.none_or]

/-- The classes made from definitions are builtin classes under their names. -/
lemma eq_builtinClass_of_get? {id : Nat} {definitions : Builtins} {name : String} {c : Class}
    (h : (builtinClasses id definitions).get? name = some c) :
    ∃ main, c = builtinClass id name main := by
  rw [get?_builtinClasses] at h
  obtain ⟨definition, -, rfl⟩ := Option.map_eq_some_iff.mp h
  exact ⟨definition.2, rfl⟩

/-- A loader made from definitions of builtin classes is a proper chain. -/
lemma proper_builtinClasses (id : Nat) (definitions : Builtins) :
    (Loader.builtin id (builtinClasses id definitions)).Proper := by
  refine ⟨List.pairwise_singleton _ id, ?_⟩
  intro depth id' classes hanc name c hc
  cases depth with
  | zero =>
    cases hanc
    exact eq_builtinClass_of_get? hc
  | succ depth => cases (ancestor_absent depth).symm.trans hanc

end Loader

end AppLauncher
