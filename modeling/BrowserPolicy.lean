import BrowserPolicy.Config.OfValue
import BrowserPolicy.Gateway.Service
import BrowserPolicy.Header.Reading
import BrowserPolicy.Main
import BrowserPolicy.Proofs.AllowList.CheckOrder
import BrowserPolicy.Proofs.AllowList.FirstViolation
import BrowserPolicy.Proofs.Compile.Accepted
import BrowserPolicy.Proofs.Compile.BothDialects
import BrowserPolicy.Proofs.Compile.EmptyHeader
import BrowserPolicy.Proofs.Compile.EntryPoints
import BrowserPolicy.Proofs.Compile.FirstFault
import BrowserPolicy.Proofs.Compile.HeaderKeys
import BrowserPolicy.Proofs.Compile.Parts
import BrowserPolicy.Proofs.Compile.SmallerPolicies
import BrowserPolicy.Proofs.Config.FirstFault
import BrowserPolicy.Proofs.Config.Schema
import BrowserPolicy.Proofs.Config.Sound
import BrowserPolicy.Proofs.Gateway.InstallationLog
import BrowserPolicy.Proofs.Gateway.PolicyOrder
import BrowserPolicy.Proofs.Gateway.Serving
import BrowserPolicy.Proofs.Gateway.StartUp
import BrowserPolicy.Proofs.Grammar.CamelCase
import BrowserPolicy.Proofs.Header.ConfinedKeys
import BrowserPolicy.Proofs.Header.LegacyDecoding
import BrowserPolicy.Proofs.Header.LegacyLanguage
import BrowserPolicy.Proofs.Header.StructuredDecoding
import BrowserPolicy.Proofs.Header.TokenStructure
import BrowserPolicy.Proofs.Http.Fields
import BrowserPolicy.Proofs.Http.Layers
import BrowserPolicy.Proofs.Log.CompilationEvents
