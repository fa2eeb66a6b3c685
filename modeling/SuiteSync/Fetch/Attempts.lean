import Mathlib.Data.PFun
import SuiteSync.Fetch.Basic

set_option autoImplicit false

namespace SuiteSync

namespace Attempt

def isTransient : Attempt → Bool
  | .page _ => false
  | .failed transient _ => transient

def result : Attempt → Except FetchError String
  | .page text => .ok text
  | .failed _ error => .error error

@[simp] theorem page_transient (text : String) : (page text).isTransient = false := rfl

@[simp] theorem failed_transient (transient : Bool) (error : FetchError) :
    (failed transient error).isTransient = transient := rfl

@[simp] theorem page_result (text : String) : (page text).result = .ok text := rfl

@[simp] theorem failed_result (transient : Bool) (error : FetchError) :
    (failed transient error).result = .error error := rfl

end Attempt

structure Tally where
  attempts : UInt32
  link : Link

def countedAttempt (url : String) (limit : UInt32) (tally : Tally) : Attempt × Tally :=
  let number := tally.attempts + 1
  match Attempt.make url tally.link with
  | (.failed true error, link) => (.failed (!decide (limit ≤ number)) error, ⟨number, link⟩)
  | (attempt, link) => (attempt, ⟨number, link⟩)

def notePause (error : FetchError) (tally : Tally) : Tally :=
  { tally with link := tally.link.note (.retrying error.message retryPause) }

-- What repeats an attempt, and is told of each failure that it goes on after. It need not come to an end.
def Retrier : Type :=
  (Tally → Attempt × Tally) → (FetchError → Tally → Tally) → Tally → Part (Except FetchError String × Tally)

structure Retrier.Persists (retrier : Retrier) : Prop where
  settles : ∀ attempt notify tally ended left, attempt tally = (ended, left) → ended.isTransient = false →
    retrier attempt notify tally = Part.some (ended.result, left)
  repeats : ∀ attempt notify tally error left, attempt tally = (.failed true error, left) →
    retrier attempt notify tally = retrier attempt notify (notify error left)

def attemptOnce (attempt : Tally → Attempt × Tally) (notify : FetchError → Tally → Tally) (tally : Tally) :
    Except FetchError String × Tally ⊕ Tally :=
  match attempt tally with
  | (.failed true error, left) => .inr (notify error left)
  | (ended, left) => .inl (ended.result, left)

def untilSettled : Retrier := fun attempt notify => PFun.fix fun tally => Part.some (attemptOnce attempt notify tally)

theorem until_settled_persists : untilSettled.Persists := by
  refine ⟨fun attempt notify tally ended left made final => ?_, fun attempt notify tally error left made => ?_⟩
  · refine Part.eq_some_iff.mpr (PFun.fix_stop (Part.mem_some_iff.mpr ?_))
    rw [attemptOnce, made]
    cases ended with
    | page text => rfl
    | failed transient error =>
        cases final
        rfl
  · refine PFun.fix_fwd_eq (Part.mem_some_iff.mpr ?_)
    rw [attemptOnce, made]

end SuiteSync
