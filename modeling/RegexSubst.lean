import RegexSubst.Main
import RegexSubst.Proofs.Template.CaseRegion
import RegexSubst.Proofs.Template.Faults
import RegexSubst.Proofs.Template.Quoting
import RegexSubst.Proofs.Template.TwoMatches
import RegexSubst.Proofs.Template.CaseCalls
import RegexSubst.Proofs.Text.FinalSigma
import RegexSubst.Proofs.Template.TypedText
import RegexSubst.Proofs.Regex.MatchOrder
import RegexSubst.Proofs.Substitution.Replacing
import RegexSubst.Proofs.Substitution.Failing
import RegexSubst.Proofs.Template.FastPath
import RegexSubst.Proofs.CommandLine.Writing
import RegexSubst.Proofs.Template.Reuse
import RegexSubst.Proofs.CommandLine.Inputs
import RegexSubst.Proofs.CommandLine.Verbose
import RegexSubst.Proofs.Template.Inert
import RegexSubst.Proofs.Template.Capture
import RegexSubst.Proofs.Template.Observation
import RegexSubst.Proofs.Substitution.Identity
import RegexSubst.Proofs.Template.BracedHex
import RegexSubst.Proofs.Template.JoinedOutput
import RegexSubst.Proofs.CommandLine.RoundTrip
import RegexSubst.Proofs.Substitution.NamedReference
