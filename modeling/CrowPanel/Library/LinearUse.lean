import Mathlib.Data.List.Count
import Mathlib.Tactic.Common

/-!
# Tokens that are used once

A log tells which tokens were issued and which were presented, in order.  `Owes log tokens` settles
the account: no token was presented more often than it had been issued before, and at the end exactly
these tokens are left.  With nothing left, each issue has one presentation after it.

The account of a nested log follows from those of its parts by `Owes.insert`: what happens between
an issue and its presentation may be settled on its own.
-/

namespace CrowPanel.Library

/-- An entry of the log. -/
inductive TokenEvent (Token : Type*) where
  | issued (token : Token)
  | presented (token : Token)
  deriving DecidableEq

section

variable {Token : Type*} [DecidableEq Token]

/-- The tokens are those that the log has issued and not yet seen presented. -/
structure Owes (log : List (TokenEvent Token)) (tokens : List Token) : Prop where
  earned : ∀ token taken, taken <+: log → taken.count (.presented token) ≤ taken.count (.issued token)
  balance : ∀ token,
    log.count (.issued token) = log.count (.presented token) + tokens.count token

/-- Every issue of a token has one presentation after it, and there are no other presentations. -/
def ExactlyOnce (log : List (TokenEvent Token)) : Prop := Owes log []

/-- A prefix of an appended list ends in one of the parts. -/
theorem prefix_append_cases {α : Type*} {taken first second : List α}
    (htaken : taken <+: first ++ second) :
    taken <+: first ∨ ∃ rest, rest <+: second ∧ taken = first ++ rest := by
  obtain ⟨later, hlater⟩ := htaken
  rcases List.append_eq_append_iff.mp hlater with ⟨middle, rfl, _⟩ | ⟨rest, rfl, rfl⟩
  · exact .inl (List.prefix_append taken middle)
  · exact .inr ⟨rest, List.prefix_append rest later, rfl⟩

namespace Owes

variable {log before inner after : List (TokenEvent Token)} {tokens others : List Token}

theorem nil : Owes ([] : List (TokenEvent Token)) [] where
  earned := fun _ taken htaken => by simp [List.prefix_nil.mp htaken]
  balance := fun _ => rfl

/-- A log without presentations owes all it has issued. -/
theorem issues (tokens : List Token) : Owes (tokens.map .issued) tokens where
  earned := by
    intro token taken htaken
    have hnone : TokenEvent.presented token ∉ taken := fun hmem => by
      simpa using htaken.subset hmem
    simp [List.count_eq_zero_of_not_mem hnone]
  balance := by
    intro token
    have hnone : TokenEvent.presented token ∉ tokens.map TokenEvent.issued := by simp
    rw [List.count_eq_zero_of_not_mem hnone, Nat.zero_add]
    exact List.count_map_of_injective _ _ (fun _ _ => TokenEvent.issued.inj) token

/-- A token that is presented right after its issue. -/
theorem settle (token : Token) : Owes [.issued token, .presented token] [] where
  earned := by
    intro other taken htaken
    rcases List.prefix_cons_iff.mp htaken with rfl | ⟨rest, rfl, hrest⟩
    · simp
    rcases List.prefix_cons_iff.mp hrest with rfl | ⟨last, rfl, hlast⟩
    · simp
    · simp [List.prefix_nil.mp hlast, List.count_cons]
  balance := by
    intro other
    by_cases hother : token = other <;> simp [hother]

/-- A log may be settled in the middle of another one. -/
theorem insert (houter : Owes (before ++ after) tokens) (hinner : Owes inner others) :
    Owes (before ++ inner ++ after) (others ++ tokens) where
  earned := by
    intro token taken htaken
    rw [List.append_assoc] at htaken
    rcases prefix_append_cases htaken with hbefore | ⟨rest, hrest, rfl⟩
    · exact houter.earned token taken (hbefore.trans (List.prefix_append _ _))
    have hbefore := houter.earned token before (List.prefix_append _ _)
    rcases prefix_append_cases hrest with hinside | ⟨last, hlast, rfl⟩
    · have hinside := hinner.earned token rest hinside
      simp only [List.count_append]
      omega
    · have hbalance := hinner.balance token
      have houtside := houter.earned token (before ++ last)
        ((List.prefix_append_right_inj before).mpr hlast)
      simp only [List.count_append] at houtside ⊢
      omega
  balance := by
    intro token
    have houter := houter.balance token
    have hinner := hinner.balance token
    simp only [List.count_append] at houter ⊢
    omega

/-- Two logs are settled one after the other. -/
theorem append (hfirst : Owes before tokens) (hsecond : Owes after others) :
    Owes (before ++ after) (tokens ++ others) := by
  simpa using @insert _ _ [] before after others tokens hsecond hfirst

/-- The tokens are all used exactly once if and only if none is left. -/
theorem exactlyOnce_iff (howes : Owes log tokens) : ExactlyOnce log ↔ tokens = [] := by
  constructor
  · intro honce
    refine List.eq_nil_iff_forall_not_mem.mpr fun token hmem => ?_
    have hpositive := List.count_pos_iff.mpr hmem
    have howed := howes.balance token
    have hsettled := honce.balance token
    simp only [List.count_nil] at hsettled
    omega
  · rintro rfl
    exact howes

end Owes

end

end CrowPanel.Library
