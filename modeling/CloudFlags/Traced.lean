/-! Results with a trace: a value and what was noted on the way to it, in order. -/

namespace CloudFlags

structure Traced (ε α : Type) where
  value : α
  trace : List ε

namespace Traced

variable {ε α β : Type}

instance : Monad (Traced ε) where
  pure a := ⟨a, []⟩
  bind t f :=
    let next := f t.value
    ⟨next.value, t.trace ++ next.trace⟩

/-- Notes one thing. -/
def note (e : ε) : Traced ε Unit := ⟨(), [e]⟩

@[simp] theorem pure_value (a : α) : (pure a : Traced ε α).value = a := rfl

@[simp] theorem pure_trace (a : α) : (pure a : Traced ε α).trace = [] := rfl

theorem bind_eq (t : Traced ε α) (f : α → Traced ε β) :
    t >>= f = ⟨(f t.value).value, t.trace ++ (f t.value).trace⟩ := rfl

@[simp] theorem bind_value (t : Traced ε α) (f : α → Traced ε β) :
    (t >>= f).value = (f t.value).value := rfl

@[simp] theorem bind_trace (t : Traced ε α) (f : α → Traced ε β) :
    (t >>= f).trace = t.trace ++ (f t.value).trace := rfl

end Traced

end CloudFlags
