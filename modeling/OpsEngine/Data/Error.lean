namespace OpsEngine

inductive ErrorCode where
  | internal
  | internalSerializationError
  | invalidInput
  | notFound
  | unsupportedPlatform
  | dependencyUnavailable
  | conflict
  | timeout
  | cancelled
  | subprocessFailed
  | artifactFetchFailed
  | artifactVerificationFailed
  | artifactNotRunnable
  | configHashMismatch
  | configValidationFailed
  | configReloadFailed
  | configRecoveryFailed
  | databaseRecoveryRequired
  | rollbackIncomplete
  | ingressNotParked
  | permissionDenied
deriving DecidableEq, Repr

end OpsEngine
