import Mathlib.Data.List.Dedup
import PortaPhone.Config.AppConfig
/-!
# What an adapter offers (`bss/adapters/__init__.py`)

| here | there |
| --- | --- |
| `Capability`, `Capability.name` | `SupportedEnum` (`models.py:633`) and what an f-string makes of a member |
| `configCapabilitiesOptions`, `capabilityDependencies` | `CONFIG_CAPABILITIES_OPTIONS` (`:133`), `CAPABILITY_DEPENDENCIES` (`:164`) |
| `evalAsBool`           | `eval_as_bool` (`types.py:274`) |
| `optionValue`, `applyOption`, `calculateCapabilities` | `BSSAdapter.calculate_capabilities` (`:178`) with its loop |

`str.upper` and `str.lower`, which go by Unicode tables, are left open. The result is a set there, of which only the
members count. `capabilities_enabled_iff`: a capability is offered exactly if the adapter has it, its option is on,
and the same holds of the one that it depends on.
-/

namespace PortaPhone.Api

open Config (Conf getConfVal)

inductive Capability
  | signup | otpSignin | passwordSignin | autoProvision | customMethods | recordings | callHistory
  | extensions | voicemail
  | ctaList | internalMessaging | smsMessaging | userEvents | notifications | notificationsPush | directPresence
  | sipPresence | sipDialogs | conference | conversationMute | callCenter | voicemailSave | voicemailTrash
  | voicemailForward | sessionAutoTerminate | transcription
deriving DecidableEq, Repr

def Capability.name : Capability → String
  | signup => "SupportedEnum.signup"
  | otpSignin => "SupportedEnum.otpSignin"
  | passwordSignin => "SupportedEnum.passwordSignin"
  | autoProvision => "SupportedEnum.autoProvision"
  | customMethods => "SupportedEnum.customMethods"
  | recordings => "SupportedEnum.recordings"
  | callHistory => "SupportedEnum.callHistory"
  | extensions => "SupportedEnum.extensions"
  | voicemail => "SupportedEnum.voicemail"
  | ctaList => "SupportedEnum.cta_list"
  | internalMessaging => "SupportedEnum.internal_messaging"
  | smsMessaging => "SupportedEnum.sms_messaging"
  | userEvents => "SupportedEnum.user_events"
  | notifications => "SupportedEnum.notifications"
  | notificationsPush => "SupportedEnum.notifications_push"
  | directPresence => "SupportedEnum.direct_presence"
  | sipPresence => "SupportedEnum.sip_presence"
  | sipDialogs => "SupportedEnum.sip_dialogs"
  | conference => "SupportedEnum.conference"
  | conversationMute => "SupportedEnum.conversation_mute"
  | callCenter => "SupportedEnum.call_center"
  | voicemailSave => "SupportedEnum.voicemail_save"
  | voicemailTrash => "SupportedEnum.voicemail_trash"
  | voicemailForward => "SupportedEnum.voicemail_forward"
  | sessionAutoTerminate => "SupportedEnum.session_auto_terminate"
  | transcription => "SupportedEnum.transcription"

structure CapabilityOption where
  option : String
  default : Bool
  capability : Capability
deriving DecidableEq, Repr

def configCapabilitiesOptions : List CapabilityOption :=
  [⟨"SIGNUP", false, .signup⟩, ⟨"PASSWORD", true, .passwordSignin⟩, ⟨"OTP", false, .otpSignin⟩,
    ⟨"AUTO_PROVISION", false, .autoProvision⟩, ⟨"CDRS", false, .callHistory⟩, ⟨"RECORDINGS", false, .recordings⟩,
    ⟨"TRANSCRIPTION", false, .transcription⟩, ⟨"EXTENSIONS", true, .extensions⟩, ⟨"VOICEMAIL", false, .voicemail⟩,
    ⟨"CUSTOM_METHODS", false, .customMethods⟩, ⟨"INTERNAL_MESSAGING", true, .internalMessaging⟩,
    ⟨"SMS_MESSAGING", false, .smsMessaging⟩, ⟨"USER_EVENTS", false, .userEvents⟩,
    ⟨"NOTIFICATIONS", false, .notifications⟩, ⟨"NOTIFICATIONS_PUSH", false, .notificationsPush⟩,
    ⟨"DIRECT_PRESENCE", true, .directPresence⟩, ⟨"SIP_PRESENCE", true, .sipPresence⟩,
    ⟨"SIP_DIALOGS", true, .sipDialogs⟩,
    ⟨"CONFERENCE", false, .conference⟩, ⟨"CONVERSATION_MUTE", true, .conversationMute⟩,
    ⟨"CALL_CENTER", false, .callCenter⟩, ⟨"VOICEMAIL_SAVE", true, .voicemailSave⟩,
    ⟨"VOICEMAIL_TRASH", true, .voicemailTrash⟩, ⟨"VOICEMAIL_FORWARD", true, .voicemailForward⟩,
    ⟨"SESSION_AUTO_TERMINATE", true, .sessionAutoTerminate⟩]

/-- With the capability that it means nothing without. -/
def capabilityDependencies : List (Capability × Capability) :=
  [(.voicemailSave, .voicemail), (.voicemailTrash, .voicemail), (.voicemailForward, .voicemail),
    (.transcription, .recordings)]

/-- What a configuration holds beside texts and dictionaries. -/
inductive Plain
  | flag (b : Bool)
  | other (repr : String)
deriving DecidableEq, Repr

/-- The error of a configuration that cannot be read, and that of `list.remove`. -/
inductive Raised
  | config (error : Config.Raised)
  | valueError
deriving DecidableEq, Repr

section Calculate

variable (upper lower : String → String) (env : String → Option String) (config : List (Config.Key × Conf Plain))

def evalAsBool : Conf Plain → Bool
  | .value (.flag b) => b
  | .str s => lower s ∈ ["true", "yes", "y", "1"]
  | .value (.other _) | .dict _ | .null => false

/-- Whether the option is on: as configured, or else by its default. -/
def optionValue (o : CapabilityOption) : Except Config.Raised Bool := do
  match ← getConfVal upper env config ["Capabilities", o.option] .null with
  | .null => return o.default
  | val => return evalAsBool lower val

def remove (c : Capability) (capabilities : List Capability) : Except Raised (List Capability) :=
  if c ∈ capabilities then .ok (capabilities.erase c) else .error .valueError

def applyOption (offered capabilities : List Capability) (o : CapabilityOption) : Except Raised (List Capability) :=
  if o.capability ∈ offered then
    match optionValue upper lower env config o with
    | .error e => .error (.config e)
    | .ok true => .ok (capabilities ++ [o.capability])
    | .ok false => remove o.capability capabilities
  else .ok capabilities

/-- Those that another one that they depend on is missing for. -/
def orphaned (enabled : List Capability) (c : Capability) : Bool :=
  capabilityDependencies.any fun entry => entry.1 = c && entry.2 ∉ enabled

/-- `offered` is the `CAPABILITIES` of the adapter's class. -/
def calculateCapabilities (offered : List Capability) : Except Raised (List Capability) := do
  let enabled ← configCapabilitiesOptions.foldlM (applyOption upper lower env config offered) offered
  return enabled.dedup.filter fun c => !orphaned enabled c

end Calculate

/-! ## The loop over the options -/

section Loop

variable (upper lower : String → String) (env : String → Option String) (config : List (Config.Key × Conf Plain))
  {offered capabilities : List Capability} {os : List CapabilityOption} {o : CapabilityOption}

/-- The adapter has it, and each option for it is on. -/
def SwitchedOn (offered : List Capability) (c : Capability) : Prop :=
  c ∈ offered ∧ ∀ o ∈ configCapabilitiesOptions, o.capability = c → optionValue upper lower env config o = .ok true

/-- An option that is on adds its capability once more, one that is off takes away the only one there is. -/
theorem applyOption_spec (hcount : o.capability ∈ offered → capabilities.count o.capability = 1) :
    (∃ e, applyOption upper lower env config offered capabilities o = .error (.config e) ∧
        optionValue upper lower env config o = .error e ∧ o.capability ∈ offered) ∨
      ∃ result, applyOption upper lower env config offered capabilities o = .ok result ∧
        (∀ c, c ≠ o.capability → result.count c = capabilities.count c) ∧
        (o.capability ∈ result ↔
          o.capability ∈ capabilities ∧
            (o.capability ∈ offered → optionValue upper lower env config o = .ok true)) := by
  unfold applyOption
  by_cases hoffered : o.capability ∈ offered
  · have hin : o.capability ∈ capabilities := List.count_pos_iff.1 (by rw [hcount hoffered]; exact Nat.one_pos)
    rw [if_pos hoffered]
    cases hvalue : optionValue upper lower env config o with
    | error e => exact .inl ⟨e, rfl, rfl, hoffered⟩
    | ok on =>
      refine .inr ?_
      cases on with
      | true =>
        refine ⟨_, rfl, fun c hc => ?_, ?_⟩
        · simp [List.count_append, Ne.symm hc]
        · simp [hin]
      | false =>
        refine ⟨_, by rw [remove, if_pos hin], fun c hc => List.count_erase_of_ne hc, ?_⟩
        have hgone : o.capability ∉ capabilities.erase o.capability := by
          rw [← List.count_eq_zero, List.count_erase_self, hcount hoffered]
        simp [hgone, hoffered]
  · rw [if_neg hoffered]
    exact .inr ⟨_, rfl, fun _ _ => rfl, by simp [hoffered]⟩

/-- The capability of every option left is there once. -/
theorem loop_spec (hdistinct : (os.map (·.capability)).Nodup)
    (hcount : ∀ o ∈ os, o.capability ∈ offered → capabilities.count o.capability = 1) :
    (∃ e, os.foldlM (applyOption upper lower env config offered) capabilities = .error (.config e) ∧
        ∃ o ∈ os, o.capability ∈ offered ∧ optionValue upper lower env config o = .error e) ∨
      ∃ result, os.foldlM (applyOption upper lower env config offered) capabilities = .ok result ∧
        ∀ c, c ∈ result ↔ c ∈ capabilities ∧
          ∀ o ∈ os, o.capability = c → c ∈ offered → optionValue upper lower env config o = .ok true := by
  induction os generalizing capabilities with
  | nil => exact .inr ⟨capabilities, rfl, by simp⟩
  | cons o os ih =>
    rw [List.map_cons, List.nodup_cons] at hdistinct
    obtain ⟨hnot, hdistinct⟩ := hdistinct
    rw [List.foldlM_cons]
    rcases applyOption_spec upper lower env config (hcount o List.mem_cons_self) with ⟨e, herror, hvalue, hoffered⟩
      | ⟨next, hnext, hothers, hself⟩
    · rw [herror]
      exact .inl ⟨e, rfl, o, List.mem_cons_self, hoffered, hvalue⟩
    · rw [hnext]
      have hcount' : ∀ o' ∈ os, o'.capability ∈ offered → next.count o'.capability = 1 := by
        intro o' ho' hoffered
        have hne : o'.capability ≠ o.capability := fun heq => hnot (heq ▸ List.mem_map_of_mem ho')
        rw [hothers _ hne]
        exact hcount o' (List.mem_cons_of_mem o ho') hoffered
      rcases ih hdistinct hcount' with ⟨e, herror, o', ho', hrest⟩ | ⟨result, hresult, hmem⟩
      · exact .inl ⟨e, herror, o', List.mem_cons_of_mem o ho', hrest⟩
      · refine .inr ⟨result, hresult, fun c => ?_⟩
        rw [hmem, List.forall_mem_cons]
        by_cases hc : c = o.capability
        · subst hc
          rw [hself]
          simp [and_assoc]
        · have hsame : c ∈ next ↔ c ∈ capabilities := by
            rw [← List.count_pos_iff, ← List.count_pos_iff, hothers c hc]
          rw [hsame]
          simp [Ne.symm hc]

end Loop

/-! ## What is offered -/

section Offered

variable (upper lower : String → String) (env : String → Option String) (config : List (Config.Key × Conf Plain))
  (offered : List Capability)

theorem options_distinct : (configCapabilitiesOptions.map (·.capability)).Nodup := by decide

/-- What another capability depends on depends on nothing. -/
theorem dependencies_flat :
    ∀ entry ∈ capabilityDependencies, ∀ entry' ∈ capabilityDependencies, entry'.1 ≠ entry.2 := by
  decide

theorem orphaned_iff {enabled : List Capability} {c : Capability} :
    orphaned enabled c = true ↔ ∃ required, (c, required) ∈ capabilityDependencies ∧ required ∉ enabled := by
  simp only [orphaned, List.any_eq_true, Bool.and_eq_true, decide_eq_true_eq]
  constructor
  · rintro ⟨⟨c', required⟩, hentry, rfl, hmissing⟩
    exact ⟨required, hentry, hmissing⟩
  · rintro ⟨required, hentry, hmissing⟩
    exact ⟨(c, required), hentry, rfl, hmissing⟩

/-- **What an adapter offers.** For an adapter that names each of its capabilities once: the calculation fails only
where the configuration cannot be read, and otherwise a capability is offered exactly if the adapter has it, no option
turns it off, and what it depends on is offered too. -/
theorem capabilities_enabled_iff (hoffered : offered.Nodup) :
    (∀ e, calculateCapabilities upper lower env config offered = .error e →
      ∃ o ∈ configCapabilitiesOptions, o.capability ∈ offered ∧ ∃ e', e = .config e' ∧
        optionValue upper lower env config o = .error e') ∧
    ∀ enabled, calculateCapabilities upper lower env config offered = .ok enabled → enabled.Nodup ∧
      ∀ c, c ∈ enabled ↔ SwitchedOn upper lower env config offered c ∧
        ∀ required, (c, required) ∈ capabilityDependencies → required ∈ enabled := by
  have hcount : ∀ o ∈ configCapabilitiesOptions, o.capability ∈ offered → offered.count o.capability = 1 :=
    fun o _ h => List.count_eq_one_of_mem hoffered h
  rcases loop_spec upper lower env config options_distinct hcount with
    ⟨e, herror, o, ho, hin, hvalue⟩ | ⟨result, hresult, hmem⟩
  · constructor
    · intro e' he'
      rw [calculateCapabilities, herror] at he'
      cases he'
      exact ⟨o, ho, hin, e, rfl, hvalue⟩
    · intro enabled henabled
      rw [calculateCapabilities, herror] at henabled
      cases henabled
  · have hloop : ∀ c, c ∈ result ↔ SwitchedOn upper lower env config offered c := by
      intro c
      rw [hmem]
      exact ⟨fun ⟨hin, h⟩ => ⟨hin, fun o ho hc => h o ho hc hin⟩, fun ⟨hin, h⟩ => ⟨hin, fun o ho hc _ => h o ho hc⟩⟩
    constructor
    · intro e he
      rw [calculateCapabilities, hresult] at he
      cases he
    · intro enabled henabled
      rw [calculateCapabilities, hresult] at henabled
      obtain rfl := Except.ok.inj henabled
      have hkept : ∀ c, c ∈ (result.dedup.filter fun c => !orphaned result c) ↔
          c ∈ result ∧ ∀ required, (c, required) ∈ capabilityDependencies → required ∈ result := by
        intro c
        rw [List.mem_filter, List.mem_dedup, Bool.not_eq_true', ← Bool.not_eq_true, orphaned_iff]
        exact and_congr_right fun _ => by simp only [not_exists, not_and, not_not]
      refine ⟨(List.nodup_dedup result).filter _, fun c => ?_⟩
      rw [hkept, hloop]
      refine and_congr_right fun _ => forall₂_congr fun required hentry => ?_
      rw [hkept]
      constructor
      · intro hrequired
        exact ⟨hrequired, fun required' hentry' => absurd rfl (dependencies_flat _ hentry _ hentry')⟩
      · exact And.left

end Offered

/-! ## PortaSwitch -/

/-- `PortaSwitchAdapter.CAPABILITIES` (`portaswitch/adapter.py:322`). -/
def portaSwitchCapabilities : List Capability :=
  [.signup, .otpSignin, .passwordSignin, .recordings, .callHistory, .extensions, .voicemail, .customMethods,
    .internalMessaging, .smsMessaging, .notifications, .notificationsPush, .directPresence, .sipPresence, .sipDialogs,
    .conference, .conversationMute, .callCenter, .sessionAutoTerminate, .voicemailSave,
    .voicemailTrash, .voicemailForward,
    .transcription]

def asciiLower (s : String) : String := String.ofList (s.toList.map Char.toLower)

/-- Recordings with their transcriptions, and no voicemail. -/
def transcribing (name : String) : Option String :=
  if name = "CAPABILITIES_RECORDINGS" then some "Yes" else if name = "CAPABILITIES_TRANSCRIPTION"
    then some "1" else none

theorem capabilities_enabled_transcribing : ∃ enabled,
    calculateCapabilities Config.asciiUpper asciiLower transcribing [] portaSwitchCapabilities = .ok enabled ∧
      .transcription ∈ enabled ∧ .voicemailSave ∉ enabled := by
  cases h : calculateCapabilities Config.asciiUpper asciiLower transcribing [] portaSwitchCapabilities with
  | error e =>
    have hok :
        (calculateCapabilities Config.asciiUpper asciiLower transcribing [] portaSwitchCapabilities).isOk = true := by
      decide +kernel
    rw [h] at hok
    cases hok
  | ok enabled =>
    obtain ⟨-, hiff⟩ := (capabilities_enabled_iff Config.asciiUpper asciiLower transcribing [] portaSwitchCapabilities
      (by decide)).2 enabled h
    have hon : ∀ c ∈ [Capability.recordings, .transcription],
        SwitchedOn Config.asciiUpper asciiLower transcribing [] portaSwitchCapabilities c := by
      have hvalues : ∀ c ∈ [Capability.recordings, .transcription], c ∈ portaSwitchCapabilities ∧
          ∀ o ∈ configCapabilitiesOptions, o.capability = c →
            optionValue Config.asciiUpper asciiLower transcribing [] o = .ok true := by decide +kernel
      exact hvalues
    have hrecordings : .recordings ∈ enabled :=
      (hiff .recordings).2 ⟨hon _ (by decide), fun required h => by simp [capabilityDependencies] at h⟩
    refine ⟨enabled, rfl, (hiff .transcription).2 ⟨hon _ (by decide), fun required h => ?_⟩, fun hsave => ?_⟩
    · obtain rfl : required = .recordings := by simpa [capabilityDependencies] using h
      exact hrecordings
    · have hvoicemail := ((hiff .voicemailSave).1 hsave).2 .voicemail (by decide)
      have hoff := ((hiff .voicemail).1 hvoicemail).1.2 ⟨"VOICEMAIL", false, .voicemail⟩ (by decide) rfl
      have hfalse :
          optionValue Config.asciiUpper asciiLower transcribing [] ⟨"VOICEMAIL", false, .voicemail⟩ = .ok false := by
        decide +kernel
      rw [hfalse] at hoff
      cases hoff

end PortaPhone.Api
