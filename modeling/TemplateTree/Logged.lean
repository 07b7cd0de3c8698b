import TemplateTree.Error

namespace TemplateTree

/-- The events that a computation recorded, in order, and how it ended. -/
structure Logged (ι α : Type) where
  events : List ι
  result : Except TreeError α

namespace Logged

variable {ι α β : Type}

/-- Records nothing. -/
protected def pure (a : α) : Logged ι α := ⟨[], .ok a⟩

/-- Goes on with the result of the first computation, unless that stopped. -/
protected def bind (x : Logged ι α) (f : α → Logged ι β) : Logged ι β :=
  match x.result with
  | .ok a => ⟨x.events ++ (f a).events, (f a).result⟩
  | .error error => ⟨x.events, .error error⟩

instance : Monad (Logged ι) where
  pure := Logged.pure
  bind := Logged.bind

/-- Records one event. -/
def record (event : ι) : Logged ι Unit := ⟨[event], .ok ()⟩

/-- Stops at an error. -/
def fail (error : TreeError) : Logged ι α := ⟨[], .error error⟩

/-- A result that needs no log. -/
def ofExcept (result : Except TreeError α) : Logged ι α := ⟨[], result⟩

@[simp]
theorem pure_events (a : α) : (pure a : Logged ι α).events = [] := rfl

@[simp]
theorem pure_result (a : α) : (pure a : Logged ι α).result = .ok a := rfl

theorem bind_of_ok {x : Logged ι α} {a : α} (h : x.result = .ok a) (f : α → Logged ι β) :
    x >>= f = ⟨x.events ++ (f a).events, (f a).result⟩ := by
  simp [bind, Logged.bind, h]

theorem bind_of_error {x : Logged ι α} {error : TreeError} (h : x.result = .error error)
    (f : α → Logged ι β) : x >>= f = ⟨x.events, .error error⟩ := by
  simp [bind, Logged.bind, h]

private theorem map_id_eq (x : Logged ι α) : id <$> x = x := by
  obtain ⟨events, result⟩ := x
  cases result <;> simp [Functor.map, Logged.bind, Logged.pure]

private theorem bind_bind_eq {γ : Type} (x : Logged ι α) (f : α → Logged ι β) (g : β → Logged ι γ) :
    x >>= f >>= g = x >>= fun a => f a >>= g := by
  obtain ⟨events, result⟩ := x
  cases result with
  | error error => rfl
  | ok a =>
    simp only [bind, Logged.bind]
    cases (f a).result with
    | error error => rfl
    | ok b => simp

/-- Steps can be grouped at will: the log of a whole is the logs of its parts in order. -/
instance : LawfulMonad (Logged ι) := LawfulMonad.mk' (Logged ι)
  map_id_eq (fun a f => by simp [pure, bind, Logged.pure, Logged.bind]) bind_bind_eq

end Logged

end TemplateTree
