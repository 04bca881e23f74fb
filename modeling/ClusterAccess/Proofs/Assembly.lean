import ClusterAccess.Profile.Validation
import Mathlib

/-!
# Assembled profiles

A check of several parts accepts exactly if each part does, and what it accepts is made of what the
parts accept. `assemble_ok` says so of a profile. The modules behind this one evaluate fixed inputs,
for which Mathlib is imported whole.
-/

namespace ClusterAccess

namespace Check

variable {α β : Type}

theorem within_ok {step : Step} {c : Check α} {a : α} : within step c = .ok a ↔ c = .ok a := by
  cases c <;> simp [within]

theorem also_ok {f : Check (α → β)} {c : Check α} {b : β} :
    also f c = .ok b ↔ ∃ g a, f = .ok g ∧ c = .ok a ∧ g a = b := by
  cases f <;> cases c <;> simp [also]

theorem map_ok {f : α → β} {c : Check α} {b : β} :
    c.map f = .ok b ↔ ∃ a, c = .ok a ∧ f a = b := by
  cases c <;> simp [Except.map]

/-- A list is accepted only if each of its members is. -/
theorem members_ok {check : α → Check β} {n : Nat} {xs : List α} {ys : List β}
    (h : members check n xs = .ok ys) : ∀ x ∈ xs, ∃ y, check x = .ok y := by
  induction xs generalizing n ys with
  | nil => exact fun x member => absurd member List.not_mem_nil
  | cons x rest ih =>
    obtain ⟨_, _, first, others, _⟩ := also_ok.mp h
    obtain ⟨y, accepted, _⟩ := map_ok.mp first
    exact List.forall_mem_cons.mpr ⟨⟨y, within_ok.mp accepted⟩, ih others⟩

end Check

theorem Profile.assemble_ok {endpoint : Check String} {credentials : Check Credentials}
    {trust : Check (Option TrustSource)} {userAgent : Check String} {verify : Check Bool}
    {user : Check Value} {groups : Check (List Value)} {p : Profile} :
    assemble endpoint credentials trust userAgent verify user groups = .ok p ↔
      endpoint = .ok p.endpoint ∧ credentials = .ok p.credentials ∧ trust = .ok p.trust ∧
      userAgent = .ok p.userAgent ∧ verify = .ok p.verify ∧ user = .ok p.impersonate ∧
      groups = .ok p.groups := by
  unfold assemble
  simp only [Check.also_ok, Check.map_ok]
  constructor
  · rintro ⟨_, _, ⟨_, _, ⟨_, _, ⟨_, _, ⟨_, _, ⟨_, _, ⟨_, he, rfl⟩, hc, rfl⟩, ht, rfl⟩, ha, rfl⟩, hv, rfl⟩,
      hu, rfl⟩, hg, rfl⟩
    exact ⟨he, hc, ht, ha, hv, hu, hg⟩
  · rintro ⟨he, hc, ht, ha, hv, hu, hg⟩
    exact ⟨_, _, ⟨_, _, ⟨_, _, ⟨_, _, ⟨_, _, ⟨_, _, ⟨_, he, rfl⟩, hc, rfl⟩, ht, rfl⟩, ha, rfl⟩, hv, rfl⟩,
      hu, rfl⟩, hg, rfl⟩

end ClusterAccess
