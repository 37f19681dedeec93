import ContractProxy.Activation.Discovery
import ContractProxy.Activation.Platform
import ContractProxy.Activation.Qualifications
import ContractProxy.Activation.Token
import ContractProxy.Assembly.Basic
import ContractProxy.Assembly.Json
import ContractProxy.Batch.Generator
import ContractProxy.CSharp.Name
import ContractProxy.CommandLine.Flag
import ContractProxy.CommandLine.Request
import ContractProxy.CommandLine.Run
import ContractProxy.CommandLine.Usage
import ContractProxy.Comparison
import ContractProxy.Config.Basic
import ContractProxy.Config.Document
import ContractProxy.Config.Loading
import ContractProxy.Config.Validity
import ContractProxy.Contract.Acceptance
import ContractProxy.Contract.Basic
import ContractProxy.Event.Basic
import ContractProxy.Event.Log
import ContractProxy.File.Path
import ContractProxy.File.SourceFile
import ContractProxy.File.Store
import ContractProxy.File.Tree
import ContractProxy.Json.Decoding
import ContractProxy.Json.Number
import ContractProxy.Json.Printer
import ContractProxy.Json.Token
import ContractProxy.Json.Tree
import ContractProxy.Main
import ContractProxy.Proofs.Activation.Discovery
import ContractProxy.Proofs.Activation.Factory
import ContractProxy.Proofs.Activation.Token
import ContractProxy.Proofs.Assembly.Json
import ContractProxy.Proofs.Batch.Assignment
import ContractProxy.Proofs.Batch.Checking
import ContractProxy.Proofs.Batch.Placement
import ContractProxy.Proofs.Batch.Positions
import ContractProxy.Proofs.Batch.Restriction
import ContractProxy.Proofs.Batch.Writing
import ContractProxy.Proofs.CSharp.Name
import ContractProxy.Proofs.CSharp.Word
import ContractProxy.Proofs.CommandLine.Effects
import ContractProxy.Proofs.CommandLine.Listing
import ContractProxy.Proofs.Comparison
import ContractProxy.Proofs.Config.Acceptance
import ContractProxy.Proofs.Config.Closed
import ContractProxy.Proofs.Config.Loading
import ContractProxy.Proofs.Config.StoredPath
import ContractProxy.Proofs.Contract.Acceptance
import ContractProxy.Proofs.Contract.Accessor
import ContractProxy.Proofs.Contract.Member
import ContractProxy.Proofs.Contract.Repetition
import ContractProxy.Proofs.Contract.Void
import ContractProxy.Proofs.Event.Json
import ContractProxy.Proofs.Event.Log
import ContractProxy.Proofs.File.Change
import ContractProxy.Proofs.File.Folder
import ContractProxy.Proofs.File.Path
import ContractProxy.Proofs.File.SourceFile
import ContractProxy.Proofs.File.Tree
import ContractProxy.Proofs.FirstFault
import ContractProxy.Proofs.Json.Number
import ContractProxy.Proofs.Json.Printer
import ContractProxy.Proofs.Json.Scan
import ContractProxy.Proofs.Json.Tree
import ContractProxy.Proofs.Proxy.BaseType
import ContractProxy.Proofs.Proxy.Mark
import ContractProxy.Proofs.Proxy.Options
import ContractProxy.Proofs.Proxy.Refusal
import ContractProxy.Proofs.Proxy.Skeleton
import ContractProxy.Proofs.Proxy.Structure
import ContractProxy.Proofs.Proxy.TypeReading
import ContractProxy.Proofs.Proxy.Unit
import ContractProxy.Proofs.Proxy.Version
import ContractProxy.Proofs.Proxy.WrittenName
import ContractProxy.Proofs.Retry.Activated
import ContractProxy.Proofs.Retry.Attempts
import ContractProxy.Proofs.Retry.Course
import ContractProxy.Proofs.Retry.Resumption
import ContractProxy.Proofs.Retry.Sequence
import ContractProxy.Proofs.Text.Nesting
import ContractProxy.Proofs.Toml.Key
import ContractProxy.Proofs.TypeRef.Acceptance
import ContractProxy.Proofs.TypeRef.ArraySuffix
import ContractProxy.Proofs.TypeRef.Decoding
import ContractProxy.Proofs.TypeRef.Folding
import ContractProxy.Proofs.TypeRef.Grammar
import ContractProxy.Proofs.TypeRef.Json
import ContractProxy.Proofs.TypeRef.Refusal
import ContractProxy.Proofs.TypeRef.Spelling
import ContractProxy.Proxy.Naming
import ContractProxy.Proxy.Options
import ContractProxy.Proxy.Unit
import ContractProxy.Retry.Call
import ContractProxy.Retry.Limit
import ContractProxy.Text.Basic
import ContractProxy.Text.Blank
import ContractProxy.Text.CodePointRange
import ContractProxy.Text.Keyed
import ContractProxy.Text.Letter
import ContractProxy.Text.Lines
import ContractProxy.Text.Lowercase
import ContractProxy.Text.Order
import ContractProxy.Text.Quoted
import ContractProxy.Toml.Basic
import ContractProxy.Toml.Document
import ContractProxy.Toml.Moment
import ContractProxy.Toml.Scalar
import ContractProxy.Toml.Statement
import ContractProxy.Toml.Token
import ContractProxy.TypeRef.Basic
import ContractProxy.TypeRef.Json
import ContractProxy.TypeRef.Rendering
import ContractProxy.TypeRef.Validity
