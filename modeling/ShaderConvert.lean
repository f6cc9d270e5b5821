import ShaderConvert.Boundary
import ShaderConvert.Diagnostics.Json
import ShaderConvert.Tools
import ShaderConvert.Proofs.Pipeline.Execution
import ShaderConvert.Proofs.Pipeline.StageFailures
import ShaderConvert.Proofs.Utf8RoundTrip
import ShaderConvert.Proofs.Pipeline.WellFormed
import ShaderConvert.Proofs.Pipeline.Composition
import ShaderConvert.Proofs.Cache.History
import ShaderConvert.Proofs.Boundary.Session
import ShaderConvert.Proofs.WordRoundTrip
import ShaderConvert.Proofs.Pipeline.Presentation
import ShaderConvert.Proofs.Boundary.OwnedCalls
import ShaderConvert.Proofs.Features.Allowlist
import ShaderConvert.Proofs.Pipeline.Sniffing
import ShaderConvert.Proofs.Features.Grammar
import ShaderConvert.Proofs.Pipeline.OptionScope
import ShaderConvert.Proofs.Pipeline.Containment
import ShaderConvert.Proofs.Json.RoundTrip
import ShaderConvert.Proofs.Options.RoundTrip
import ShaderConvert.Proofs.Diagnostics.RoundTrip
import ShaderConvert.Proofs.Json.Grammar
import ShaderConvert.Proofs.Json.Skipping
import ShaderConvert.Proofs.Json.Reading
import ShaderConvert.Proofs.Json.Objects
import ShaderConvert.Proofs.Options.Fields
import ShaderConvert.Proofs.Options.Partial
import ShaderConvert.Proofs.Pipeline.SecondReading
import ShaderConvert.Proofs.Pipeline.Validation
import ShaderConvert.Proofs.Text.Lines
import ShaderConvert.Proofs.Diagnostics.Quoting
import ShaderConvert.Proofs.Diagnostics.Carets
import ShaderConvert.Proofs.Pipeline.SignificantLine
import ShaderConvert.Proofs.CanonicalSummary
import ShaderConvert.Proofs.Text.LossyDecoding
import ShaderConvert.Proofs.LiteralPacking
