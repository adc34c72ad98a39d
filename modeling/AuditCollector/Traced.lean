import AuditCollector.Event

namespace AuditCollector

-- A value together with the events on the way to it, the earliest first.
structure Traced (α : Type) where
  value : α
  events : List Event := []

namespace Traced

variable {α β : Type}

def emit (event : Event) : Traced Unit := ⟨(), [event]⟩

instance : Monad Traced where
  pure a := ⟨a, []⟩
  bind x f := ⟨(f x.value).value, x.events ++ (f x.value).events⟩

@[simp] theorem value_pure (a : α) : (pure a : Traced α).value = a := rfl

@[simp] theorem events_pure (a : α) : (pure a : Traced α).events = [] := rfl

@[simp] theorem value_bind (x : Traced α) (f : α → Traced β) :
    (x >>= f).value = (f x.value).value := rfl

@[simp] theorem events_bind (x : Traced α) (f : α → Traced β) :
    (x >>= f).events = x.events ++ (f x.value).events := rfl

@[simp] theorem value_map (f : α → β) (x : Traced α) : (f <$> x).value = f x.value := rfl

@[simp] theorem events_map (f : α → β) (x : Traced α) : (f <$> x).events = x.events := by
  change x.events ++ [] = x.events
  simp

@[simp] theorem value_emit (event : Event) : (emit event).value = () := rfl

@[simp] theorem events_emit (event : Event) : (emit event).events = [event] := rfl

@[ext] theorem ext {x y : Traced α} (hvalue : x.value = y.value)
    (hevents : x.events = y.events) : x = y := by
  cases x
  cases y
  simp_all

instance : LawfulMonad Traced := LawfulMonad.mk' Traced
  (fun x => by ext <;> simp)
  (fun a f => by ext <;> simp)
  (fun x f g => by ext <;> simp)

end Traced

end AuditCollector
