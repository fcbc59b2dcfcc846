import Datapath.Proofs.Attribution
import Mathlib.Data.List.Chain

/-!
# Contexts and the chain of sources

Any number of contexts may be offered to a fault, one after the other. A fault that has one keeps
it, and a fault that has none takes the first, so the rest of them changes nothing. Faults can
also be built with contexts in one another, to any depth. However they came about, the contexts
lie above the same cause: it is where the chain of sources ends, and as many sources lead there
as there are contexts.
-/

namespace Datapath.Fault

/-- The fault that is directly below the context of this one, if it has a context. -/
def source? : Fault → Option Fault
  | simulation _ _ source => some source
  | _ => none

/-- Nothing is below a fault without context, and only there. -/
theorem source?_eq_none_iff {fault : Fault} :
    fault.source? = none ↔ fault.hasContext = false := by
  cases fault <;> simp [source?, hasContext]

/-- How many contexts lie around the cause. -/
def layers : Fault → Nat
  | simulation _ _ source => source.layers + 1
  | _ => 0

/-- The fault after contexts were offered to it in turn. -/
def withContexts (fault : Fault) (contexts : List StepContext) : Fault :=
  contexts.foldl (fun inner context => inner.withContext context.pc context.cycle) fault

/-! ## Contexts in turn -/

/-- No number of contexts changes a fault that has one. -/
theorem withContexts_of_hasContext {fault : Fault} (carries : fault.hasContext = true)
    (contexts : List StepContext) : fault.withContexts contexts = fault := by
  induction contexts with
  | nil => rfl
  | cons context rest inductionHypothesis =>
    rw [withContexts, List.foldl_cons, withContext_of_hasContext carries]
    exact inductionHypothesis

/-- Of several contexts only the first can make a difference. -/
theorem withContexts_cons (fault : Fault) (first : StepContext) (later : List StepContext) :
    fault.withContexts (first :: later) = fault.withContext first.pc first.cycle :=
  withContexts_of_hasContext (hasContext_withContext fault first.pc first.cycle) later

/-- A context is offered to a bare fault with success, and to no other. -/
theorem withContext_eq (fault : Fault) (pc : Word) (cycle : Nat) :
    fault.withContext pc cycle = if fault.hasContext then fault else simulation pc cycle fault := by
  cases carries : fault.hasContext with
  | true => exact withContext_of_hasContext carries pc cycle
  | false => exact withContext_of_bare carries pc cycle

/-! ## Down to the cause -/

/-- A context hides no cause. -/
theorem root_withContext (fault : Fault) (pc : Word) (cycle : Nat) :
    (fault.withContext pc cycle).root = fault.root := by
  cases fault <;> rfl

/-- The root has no context around it. -/
theorem hasContext_root (fault : Fault) : fault.root.hasContext = false := by
  induction fault with
  | simulation pc cycle source inductionHypothesis => exact inductionHypothesis
  | _ => rfl

/-- Each of the sources is directly below the one before it. -/
theorem isChain_sources (fault : Fault) :
    (fault :: fault.sources).IsChain fun outer inner => outer.source? = some inner := by
  induction fault with
  | simulation pc cycle source inductionHypothesis => exact .cons_cons rfl inductionHypothesis
  | _ => exact .singleton _

/-- Going down from source to source one arrives at the root. -/
theorem getLast_sources (fault : Fault) :
    (fault :: fault.sources).getLast? = some fault.root := by
  induction fault with
  | simulation pc cycle source inductionHypothesis =>
    rw [sources, List.getLast?_cons_cons]
    exact inductionHypothesis
  | _ => rfl

/-- A fault has as many sources below it as it has contexts around its root. -/
theorem length_sources (fault : Fault) : fault.sources.length = fault.layers := by
  induction fault with
  | simulation pc cycle source inductionHypothesis =>
    rw [sources, layers, List.length_cons, inductionHypothesis]
  | _ => rfl

/-- Below a fault with a context there is at least one source. -/
theorem sources_ne_nil {fault : Fault} (carries : fault.hasContext = true) :
    fault.sources ≠ [] := by
  cases fault with
  | simulation pc cycle source => exact List.cons_ne_nil _ _
  | _ => cases carries

/-- Offer one context or more to a fault, which may have been built with any number of them. If
it had one it is unchanged, and else it has the first that was offered. The root is the same as
before, has no context and is its own root. It is the last in the chain of sources, and there
are as many sources as contexts. -/
theorem contexts_keep_cause (fault : Fault) (first : StepContext) (later : List StepContext) :
    let final := fault.withContexts (first :: later)
    final = (if fault.hasContext then fault else simulation first.pc first.cycle fault) ∧
      final.root = fault.root ∧ final.root.hasContext = false ∧ final.root.root = final.root ∧
      ((final :: final.sources).IsChain fun outer inner => outer.source? = some inner) ∧
      final.sources.getLast? = some final.root ∧ final.root.source? = none ∧
      final.sources.length = final.layers := by
  intro final
  have attached : final = fault.withContext first.pc first.cycle :=
    withContexts_cons fault first later
  have carries : final.hasContext = true := by
    rw [attached]
    exact hasContext_withContext fault first.pc first.cycle
  have bare := hasContext_root final
  refine ⟨?_, ?_, bare, root_of_bare bare, isChain_sources final, ?_, source?_eq_none_iff.2 bare,
    length_sources final⟩
  · rw [attached, withContext_eq]
  · rw [attached, root_withContext]
  · have last := getLast_sources final
    rwa [List.getLast?_cons_of_ne_nil (sources_ne_nil carries)] at last

end Datapath.Fault
