import FormLogic.Main
import FormLogic.Session
import FormLogic.Proofs.Expression.Equations
import FormLogic.Context.Encode
import FormLogic.Proofs.Expression.Limit
import FormLogic.Proofs.Text.Trim
import FormLogic.Proofs.Expression.Contiguous
import FormLogic.Proofs.Expression.Dependency
import FormLogic.Proofs.Scan.Frame
import FormLogic.Proofs.Scan.Cut
import FormLogic.Proofs.Expression.Forms
import FormLogic.Proofs.Expression.Composition
import FormLogic.Proofs.Expression.Literal
import FormLogic.Proofs.Expression.Grammar
import FormLogic.Proofs.Expression.Precedence
import FormLogic.Proofs.Expression.FailOpen
import FormLogic.Proofs.Expression.Call
import FormLogic.Proofs.Number.Spelling
import FormLogic.Proofs.Arithmetic.Cut
import FormLogic.Proofs.Arithmetic.Grammar
import FormLogic.Proofs.Arithmetic.Precedence
import FormLogic.Proofs.Expression.Heredity
import FormLogic.Proofs.Context.Decode
import FormLogic.Proofs.Context.Session
import FormLogic.Proofs.Number.Nearest
import FormLogic.Proofs.Number.ReadBack
import FormLogic.Proofs.Arithmetic.Substitution
import FormLogic.Proofs.Value.Document
import FormLogic.Proofs.Context.Encode
import FormLogic.Proofs.Expression.Fallback
import FormLogic.Proofs.Expression.Membership
import FormLogic.Proofs.Expression.Source
import FormLogic.Proofs.Expression.Parentheses
import FormLogic.Proofs.Expression.Comparison
import FormLogic.Proofs.Expression.Enclosed
import FormLogic.Proofs.Expression.MembershipForms
import FormLogic.Proofs.Scan.Grammar
import FormLogic.Proofs.Scan.Pieces
import FormLogic.Proofs.Scan.Ternary
import FormLogic.Proofs.Arithmetic.Literal
import FormLogic.Proofs.Number.Rounding
import FormLogic.Proofs.Number.Lenient
import FormLogic.Proofs.Number.Strict
import FormLogic.Proofs.Value.Equality
import FormLogic.Proofs.Value.Readings
import FormLogic.Proofs.Number.Readers
import FormLogic.Proofs.Value.Output
import FormLogic.Proofs.Context.Shadowing
import FormLogic.Proofs.Number.Addition
import FormLogic.Proofs.Context.Aggregate
import FormLogic.Proofs.Expression.Belonging
import FormLogic.Proofs.Expression.GridCall
import FormLogic.Proofs.Arithmetic.Limit
import FormLogic.Proofs.Expression.Calculation
import FormLogic.Proofs.Expression.Substring
import FormLogic.Proofs.Expression.Position
import FormLogic.Proofs.Utf8.Safety
