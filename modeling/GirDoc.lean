import GirDoc.Ast.Reading
import GirDoc.Ast.Registry
import GirDoc.Ast.Thing.Written
import GirDoc.C.Include
import GirDoc.Gir.Configure
import GirDoc.Gir.Format
import GirDoc.Gir.OnlineIndex
import GirDoc.Gir.Resolve
import GirDoc.Main
import GirDoc.Package
import GirDoc.Proofs.C.Macros
import GirDoc.Proofs.C.Schedule
import GirDoc.Proofs.C.Walk
import GirDoc.Proofs.Extract.Concatenation
import GirDoc.Proofs.Gir.Exploration
import GirDoc.Proofs.Gir.Hierarchy
import GirDoc.Sections
import GirDoc.Text.Base64
import GirDoc.Value.Json
import GirDoc.VersionList
import GirDoc.Proofs.C.FirstDeclaration
import GirDoc.Proofs.C.Inclusion
import GirDoc.Proofs.Gir.KeptElements
import GirDoc.Proofs.Gir.Changes
import GirDoc.Proofs.Gir.Members
import GirDoc.Proofs.Gir.Configuration
import GirDoc.Proofs.Gir.LeftOut
import GirDoc.Proofs.Gir.LinkTitles
import GirDoc.Proofs.Gir.Signatures
import GirDoc.Proofs.Gir.Parameters
import GirDoc.Proofs.C.PublicPart
import GirDoc.Proofs.Gir.Pages
import GirDoc.Proofs.C.MacroOrder
import GirDoc.Proofs.Extract.Spelling
import GirDoc.Proofs.Extract.Rereading
import GirDoc.Proofs.C.SharedLines
import GirDoc.Proofs.Extract.JoinedLines
import GirDoc.Proofs.C.Callbacks
import GirDoc.Proofs.C.IncludedLines
import GirDoc.Proofs.Gir.Pairing
import GirDoc.Proofs.VersionList
import GirDoc.Proofs.TypeName
import GirDoc.Proofs.Gir.TypeTokens
import GirDoc.Proofs.Annotations
import GirDoc.Proofs.ArrayOptions
import GirDoc.Proofs.Sections
import GirDoc.Proofs.Gir.OnlineIndex
import GirDoc.Proofs.Build
import GirDoc.Proofs.C.SymbolTable
