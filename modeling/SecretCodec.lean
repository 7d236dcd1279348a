import SecretCodec.Main
import SecretCodec.Session
import SecretCodec.World.Directory
import SecretCodec.Aes.Inverse
import SecretCodec.Json.Value.Lemmas
import SecretCodec.Proofs.Codec.Verification
import SecretCodec.Proofs.Codec.Tampering
import SecretCodec.Proofs.Hex.Refusal
import SecretCodec.Proofs.Text.Containment
import SecretCodec.Proofs.Algorithm.Names
import SecretCodec.Proofs.Bcrypt.Refusal
import SecretCodec.Proofs.Codec.Failures
import SecretCodec.Proofs.Codec.Forms
import SecretCodec.Proofs.Codec.Concealment
import SecretCodec.Proofs.Config.Disclosure
import SecretCodec.Proofs.Bcrypt.Acceptance
import SecretCodec.Proofs.CommandLine.Answers
import SecretCodec.Proofs.Config.Loading
import SecretCodec.Proofs.Config.Building
import SecretCodec.Proofs.Config.Sources
import SecretCodec.Proofs.CommandLine.Configured
import SecretCodec.Proofs.Config.Readiness
import SecretCodec.Proofs.Codec.Dependence
import SecretCodec.Proofs.Codec.Randomness
import SecretCodec.Proofs.Algorithm.Documents
import SecretCodec.Proofs.Codec.Aliases
import SecretCodec.Proofs.SecretKey.Blockwise
import SecretCodec.Proofs.Codec.Diagnosis
import SecretCodec.Proofs.Digest.Parts
