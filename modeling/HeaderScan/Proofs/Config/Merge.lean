import HeaderScan.Config.Basic

/-!
# Laws of completing a configuration

One configuration is completed by another setting by setting, so every law of `Config.merge`
is a law of `Config.prefer` for one value and its default. Completing is a union that prefers
its left side: it is associative and idempotent, and the standard configuration is its
identity on both sides.
-/

namespace HeaderScan

/-- What can be set. -/
inductive Setting where
  | verbose
  | workers
  | threads
  | header
  | hostsFile
  | hosts
  | userAgent
  | requestHeaders
  | timeout
deriving DecidableEq

namespace Setting

/-- What a setting is set to. -/
def Value : Setting → Type
  | verbose => Bool
  | workers => Nat
  | threads | timeout => Option Nat
  | header | userAgent => String
  | hostsFile => Option FilePath
  | hosts | requestHeaders => List String

instance : (setting : Setting) → DecidableEq setting.Value
  | verbose => inferInstanceAs (DecidableEq Bool)
  | workers => inferInstanceAs (DecidableEq Nat)
  | threads | timeout => inferInstanceAs (DecidableEq (Option Nat))
  | header | userAgent => inferInstanceAs (DecidableEq String)
  | hostsFile => inferInstanceAs (DecidableEq (Option FilePath))
  | hosts | requestHeaders => inferInstanceAs (DecidableEq (List String))

end Setting

namespace Config

/-- What a configuration says about a setting. -/
def get (config : Config) : (setting : Setting) → setting.Value
  | .verbose => config.verbose
  | .workers => config.workers
  | .threads => config.threads
  | .header => config.header
  | .hostsFile => config.hostsFile
  | .hosts => config.hosts
  | .userAgent => config.userAgent
  | .requestHeaders => config.requestHeaders
  | .timeout => config.timeout

/-- A configuration says nothing else. -/
theorem eq_of_get {first second : Config} (h : ∀ setting, first.get setting = second.get setting) :
    first = second := by
  have hverbose : first.verbose = second.verbose := h .verbose
  have hworkers : first.workers = second.workers := h .workers
  have hthreads : first.threads = second.threads := h .threads
  have hheader : first.header = second.header := h .header
  have hhostsFile : first.hostsFile = second.hostsFile := h .hostsFile
  have hhosts : first.hosts = second.hosts := h .hosts
  have huserAgent : first.userAgent = second.userAgent := h .userAgent
  have hrequestHeaders : first.requestHeaders = second.requestHeaders := h .requestHeaders
  have htimeout : first.timeout = second.timeout := h .timeout
  cases first
  cases second
  simp_all

section Prefer

variable {α : Type} [DecidableEq α] (standard first second third : α)

/-- A value is completed by itself to itself. -/
@[simp] theorem prefer_self : prefer standard first first = first := by
  unfold prefer
  split <;> rfl

/-- The default is completed to the other value. -/
@[simp] theorem prefer_standard_left : prefer standard standard second = second := by
  rw [prefer, if_pos rfl]

/-- The default completes nothing. -/
@[simp] theorem prefer_standard_right : prefer standard first standard = first := by
  unfold prefer
  split
  case isTrue h => exact h.symm
  case isFalse => rfl

/-- It does not matter in which order values are completed. -/
theorem prefer_assoc : prefer standard (prefer standard first second) third =
    prefer standard first (prefer standard second third) := by
  by_cases hfirst : first = standard
  · rw [hfirst, prefer_standard_left, prefer_standard_left]
  · have hkept (other : α) : prefer standard first other = first := by
      rw [prefer, if_neg hfirst]
    rw [hkept, hkept, hkept]

/-- A value that can be absent is the first one that is there. -/
theorem prefer_none {β : Type} [DecidableEq β] (first second : Option β) :
    prefer none first second = first.or second := by
  cases first <;> rfl

end Prefer

/-- Configurations are completed setting by setting. -/
theorem get_merge (first second : Config) (setting : Setting) :
    (first.merge second).get setting =
      prefer (standard.get setting) (first.get setting) (second.get setting) := by
  cases setting <;> rfl

/-- It does not matter in which order configurations are completed. -/
theorem merge_assoc (first second third : Config) :
    (first.merge second).merge third = first.merge (second.merge third) := by
  apply eq_of_get
  intro setting
  rw [get_merge, get_merge, get_merge, get_merge, prefer_assoc]

/-- A configuration is completed by itself to itself. -/
@[simp] theorem merge_self (config : Config) : config.merge config = config := by
  apply eq_of_get
  intro setting
  rw [get_merge, prefer_self]

/-- Where nothing is configured, the other configuration is all there is. -/
@[simp] theorem standard_merge (config : Config) : standard.merge config = config := by
  apply eq_of_get
  intro setting
  rw [get_merge, prefer_standard_left]

/-- A configuration in which nothing is configured completes nothing. -/
@[simp] theorem merge_standard (config : Config) : config.merge standard = config := by
  apply eq_of_get
  intro setting
  rw [get_merge, prefer_standard_right]

end Config

end HeaderScan
