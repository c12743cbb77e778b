import EventCorrelation.Store.Basic

/-!
# Overlays over stores

A store with groups switched off on top of what it holds, and with lookups of triggered groups
that can be made to fail. A group that is switched off is still found, but reported as disabled
when it is triggered.
-/

namespace EventCorrelation

structure Overlay (σ : Type) where
  inner : σ
  /-- The groups that are switched off. -/
  disabled : List GroupId
  /-- Why lookups of triggered groups fail. -/
  failing : Option String

namespace Overlay

variable {σ : Type}

/-- Nothing is switched off, and nothing fails. -/
def ofStore (inner : σ) : Overlay σ := ⟨inner, [], none⟩

/-- Goes on with another state of the store below. -/
def resume {α : Type} (overlay : Overlay σ) (made : α × σ) : α × Overlay σ :=
  (made.1, { overlay with inner := made.2 })

/-- The group as it is reported. -/
def report (overlay : Overlay σ) (group : ReceiverGroup) : ReceiverGroup :=
  { group with enabled := group.enabled && !overlay.disabled.contains group.id }

end Overlay

/-- The store with an overlay. -/
def Store.overlaid {σ : Type} (store : Store σ) : Store (Overlay σ) where
  createEvent id now new overlay := overlay.resume (store.createEvent id now new overlay.inner)
  createReceiver id now new overlay :=
    overlay.resume (store.createReceiver id now new overlay.inner)
  createGroup id now new overlay := overlay.resume (store.createGroup id now new overlay.inner)
  findEvent id overlay := store.findEvent id overlay.inner
  findReceiver id overlay := store.findReceiver id overlay.inner
  findGroup id overlay := store.findGroup id overlay.inner
  triggered event overlay := match overlay.failing with
    | some reason => .error (.corrupt "event receiver group" reason)
    | none => (store.triggered event overlay.inner).map fun groups => groups.map overlay.report

end EventCorrelation
