/-!
# What comes of a call

A collaborator outside the library is known only by what comes of calling it.  A `Response`
may take time, may never come, or may be a crash.
-/

namespace PostingTerminal

/-- What comes of a call, with its delay in milliseconds. -/
inductive Response (α : Type) where
  | answer (delay : Nat) (value : α)
  | crash (delay : Nat)
  | never

namespace Response

variable {α β : Type}

/-- What is made of a response's value once it is there. -/
def map (f : α → β) : Response α → Response β
  | .answer delay value => .answer delay (f value)
  | .crash delay => .crash delay
  | .never => .never

/-- What is made of a response never comes exactly if the response does not. -/
@[simp]
theorem map_eq_never_iff {f : α → β} {response : Response α} :
    response.map f = .never ↔ response = .never := by
  cases response <;> simp [map]

/-- What is made of a response is there when the response is, and is made of its value. -/
theorem map_eq_answer_iff {f : α → β} {response : Response α} {delay : Nat} {value : β} :
    response.map f = .answer delay value ↔ ∃ a, response = .answer delay a ∧ f a = value := by
  cases response with
  | answer delay' a => simp [map, and_assoc]
  | crash delay' | never => simp [map]

end Response

end PostingTerminal
