import Rulefolio.Models

/-!
# Settings

The settings that modelled functions read, with the bounds `pydantic` enforces when the process
starts, so a `Settings` value that violates one of them cannot be built.

`decrypt` stands for the AES-GCM decryption of a mail's token envelope under the configured key.
It is a parameter because the cipher is a third-party package, and no result depends on what it
returns.
-/

namespace Rulefolio

/-- The part of `app.core.config.Settings` the model reads. -/
structure Settings where
  appPublicUrl : String
  recoveryDeploymentFrozen : Bool
  mailMaxAttempts : ℕ
  mailDispatchStaleMinutes : ℕ
  tokenEncryptionKeyVersion : ℕ
  /-- `AESGCM(key).decrypt(nonce, ciphertext, associated_data).decode()`, where the associated
  data are the credential and the purpose. `none` is any exception it raises. -/
  decrypt : (nonce ciphertext : Bytes) → (credentialId : Option Uuid) → MailPurpose →
    Option String
  one_le_mailMaxAttempts : 1 ≤ mailMaxAttempts
  one_le_mailDispatchStaleMinutes : 1 ≤ mailDispatchStaleMinutes

/-- The defaults of the source, for a cipher. -/
def Settings.default (decrypt : Bytes → Bytes → Option Uuid → MailPurpose → Option String) :
    Settings where
  appPublicUrl := "http://127.0.0.1:3105"
  recoveryDeploymentFrozen := false
  mailMaxAttempts := 3
  mailDispatchStaleMinutes := 5
  tokenEncryptionKeyVersion := 1
  decrypt := decrypt
  one_le_mailMaxAttempts := by decide
  one_le_mailDispatchStaleMinutes := by decide

/-- The defaults, where no token can be decrypted. -/
def Settings.withoutCipher : Settings :=
  .default fun _ _ _ _ => none

/-- `timedelta(minutes=…)`; a `Timestamp` counts seconds. -/
def minutes (n : ℕ) : ℕ := 60 * n

/-- `app.recovery.gate.dispatcher_allowed`, on the stage its `SELECT` read. -/
def dispatcherAllowed (settings : Settings) (stage : RecoveryStage) : Bool :=
  !settings.recoveryDeploymentFrozen && stage == .opened

end Rulefolio
