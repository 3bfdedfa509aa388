import SchemaBinding.Proofs.Emission

/-!
# Types inside types

All requests that a request leads to, directly or through others: one for each
type that is written inside a particle, at any depth.  A traversal that meets no
name twice serves all of them.
-/

namespace SchemaBinding

open Emission

/--
A traversal that meets no key twice enters everything that its pending nodes
lead to.
-/
theorem Traversal.entered_eq {κ ν : Type} {key : ν → κ} {next all : ν → List ν}
    (unfolds : ∀ node, all node = node :: (next node).flatMap all)
    {seen : List κ} {pending entered left : List ν}
    (traversal : Traversal key next seen pending entered left)
    (distinct : ((pending.flatMap all).map key ++ seen).Nodup) :
    entered = pending.flatMap all := by
  induction traversal with
  | done seen => rfl
  | @pass seen node rest entered left known after ih =>
      rw [List.flatMap_cons, unfolds] at distinct
      exact absurd known ((List.nodup_append'.1 distinct).2.2 (by simp))
  | @enter seen node rest below leftBelow entered left fresh inside after inner outer =>
      rw [List.flatMap_cons, unfolds, List.map_append, List.map_cons, List.append_assoc,
        List.cons_append] at distinct
      have apart : ((((next node).flatMap all).map key) ++
          ((rest.flatMap all).map key ++ key node :: seen)).Nodup := by
        refine (List.Perm.nodup_iff ?_).1 distinct
        refine List.perm_middle.symm.trans (List.Perm.append_left _ ?_)
        exact List.perm_middle.symm
      have belowEq := inner (apart.sublist
        (List.Sublist.append (.refl _) (List.sublist_append_right _ _)))
      have laterEq := outer (by
        rw [belowEq]
        refine (List.Perm.nodup_iff ?_).1 apart
        rw [← List.append_assoc, ← List.append_assoc]
        exact List.Perm.append_right _ List.perm_append_comm)
      rw [List.flatMap_cons, unfolds, belowEq, laterEq]
      rfl

mutual

def ComplexType.namesInside (owner : String) : ComplexType → List String
  | ⟨_, elements, _, _, _, _, _⟩ => namesInsideAll owner elements

def namesInsideParticle (owner : String) : ElementParticle → List String
  | ⟨_, _, _, none, _, _, _, _⟩ => []
  | ⟨name, _, _, some type, _, _, _, _⟩ =>
      Naming.synthesizedName owner name :: type.namesInside (Naming.synthesizedName owner name)

def namesInsideAll (owner : String) : List ElementParticle → List String
  | [] => []
  | particle :: rest => namesInsideParticle owner particle ++ namesInsideAll owner rest

end

mutual

/-- The requests for the types that are written inside a type, outer ones first. -/
def requestsInside (nested : MergedType) : ComplexType → List Request
  | ⟨_, elements, _, _, _, _, _⟩ => requestsInsideAll nested elements

def requestsInsideParticle (owner : MergedType) : ElementParticle → List Request
  | ⟨_, _, _, none, _, _, _, _⟩ => []
  | ⟨name, _, _, some type, _, _, _, _⟩ =>
      ⟨owner.synthesized name type, true⟩ :: requestsInside (owner.synthesized name type) type

def requestsInsideAll (owner : MergedType) : List ElementParticle → List Request
  | [] => []
  | particle :: rest => requestsInsideParticle owner particle ++ requestsInsideAll owner rest

end

mutual

theorem names_requestsInside (nested : MergedType) (type : ComplexType) :
    (requestsInside nested type).map Request.name = type.namesInside nested.name := by
  match type with
  | ⟨_, elements, _, _, _, _, _⟩ =>
      rw [requestsInside, ComplexType.namesInside]
      exact names_requestsInsideAll nested elements

theorem names_requestsInsideParticle (owner : MergedType) (particle : ElementParticle) :
    (requestsInsideParticle owner particle).map Request.name =
      namesInsideParticle owner.name particle := by
  match particle with
  | ⟨_, _, _, none, _, _, _, _⟩ =>
      rw [requestsInsideParticle, namesInsideParticle, List.map_nil]
  | ⟨name, _, _, some type, _, _, _, _⟩ =>
      rw [requestsInsideParticle, namesInsideParticle, List.map_cons,
        names_requestsInside (owner.synthesized name type) type]
      rfl

theorem names_requestsInsideAll (owner : MergedType) (particles : List ElementParticle) :
    (requestsInsideAll owner particles).map Request.name =
      namesInsideAll owner.name particles := by
  match particles with
  | [] => rw [requestsInsideAll, namesInsideAll, List.map_nil]
  | particle :: rest =>
      rw [requestsInsideAll, namesInsideAll, List.map_append,
        names_requestsInsideParticle owner particle, names_requestsInsideAll owner rest]

end

namespace Emission.Request

def all (request : Request) : List Request :=
  request :: requestsInsideAll request.type request.type.elements

theorem all_synthesized (owner : MergedType) (name : String) (type : ComplexType) :
    all ⟨owner.synthesized name type, true⟩ =
      ⟨owner.synthesized name type, true⟩ ::
        requestsInside (owner.synthesized name type) type := by
  obtain ⟨inner, elements, attributes, base, text, uri, source⟩ := type
  rw [requestsInside]
  rfl

theorem requestsInsideAll_eq (owner : MergedType) (particles : List ElementParticle) :
    requestsInsideAll owner particles = (innerOf owner particles).flatMap all := by
  induction particles with
  | nil => rw [requestsInsideAll]; rfl
  | cons particle rest ih =>
      rw [requestsInsideAll, ih]
      obtain ⟨name, typeName, simpleType, complexType, ref, minOccurs, maxOccurs, uri⟩ := particle
      cases complexType with
      | none => rw [requestsInsideParticle]; rfl
      | some type =>
          rw [requestsInsideParticle, ← all_synthesized]
          rfl

theorem all_eq (request : Request) : request.all = request :: request.inner.flatMap all := by
  rw [all, requestsInsideAll_eq]
  rfl

theorem names_all (request : Request) :
    request.all.map Request.name =
      request.name :: namesInsideAll request.name request.type.elements := by
  rw [all, List.map_cons, names_requestsInsideAll]
  rfl

end Emission.Request

end SchemaBinding
