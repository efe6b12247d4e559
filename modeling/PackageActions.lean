import PackageActions.Argument.OfJson
import PackageActions.Command.Run
import PackageActions.Config.Load
import PackageActions.Main
import PackageActions.Proofs.Action.Kind
import PackageActions.Proofs.Action.Reading
import PackageActions.Proofs.Action.Records
import PackageActions.Proofs.Argument.Checks
import PackageActions.Proofs.Argument.Construct
import PackageActions.Proofs.Argument.Context
import PackageActions.Proofs.Argument.Nesting
import PackageActions.Proofs.Argument.Plain
import PackageActions.Proofs.Argument.Records
import PackageActions.Proofs.Argument.Refusals
import PackageActions.Proofs.Command.Abstract
import PackageActions.Proofs.Command.Building
import PackageActions.Proofs.Command.Layers
import PackageActions.Proofs.Command.Line
import PackageActions.Proofs.Command.Reports
import PackageActions.Proofs.Command.Shown
import PackageActions.Proofs.Command.Stages
import PackageActions.Proofs.Command.Supporters
import PackageActions.Proofs.Config.Environment
import PackageActions.Proofs.Config.InForce
import PackageActions.Proofs.Config.Loading
import PackageActions.Proofs.Config.Reading
import PackageActions.Proofs.Config.Sections
import PackageActions.Proofs.Error.Rereading
import PackageActions.Proofs.Json.Tokens
import PackageActions.Proofs.Json.Written
import PackageActions.Proofs.Object
import PackageActions.Proofs.Repository.Adding
import PackageActions.Proofs.Repository.Configured
import PackageActions.Proofs.Text.Digit
import PackageActions.Proofs.Text.Utf8
import PackageActions.Proofs.Toml.Arguments
import PackageActions.Repository.Set
