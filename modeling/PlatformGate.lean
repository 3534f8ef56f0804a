import PlatformGate.Cfg
import PlatformGate.Command.Arguments
import PlatformGate.Command.Breakdown
import PlatformGate.Command.Config
import PlatformGate.Command.FileSystem
import PlatformGate.Command.Path
import PlatformGate.Command.Run
import PlatformGate.Command.Workspace
import PlatformGate.Declaration
import PlatformGate.Declaration.Generics
import PlatformGate.Declaration.Signature
import PlatformGate.Declaration.UseTree
import PlatformGate.Discovery
import PlatformGate.Entry
import PlatformGate.Generation
import PlatformGate.Identifier
import PlatformGate.Item
import PlatformGate.Item.ForwardCall
import PlatformGate.Item.Function
import PlatformGate.Item.Module
import PlatformGate.Item.Struct
import PlatformGate.Location
import PlatformGate.Main
import PlatformGate.Manifest
import PlatformGate.Manifest.Attribute
import PlatformGate.Manifest.Declaration
import PlatformGate.Manifest.Error
import PlatformGate.Markup.Character
import PlatformGate.Markup.Charset
import PlatformGate.Markup.Charset.Basic
import PlatformGate.Markup.Charset.Table
import PlatformGate.Markup.Content
import PlatformGate.Markup.Definitions
import PlatformGate.Markup.Doctype
import PlatformGate.Markup.Doctype.Stage
import PlatformGate.Markup.Document
import PlatformGate.Markup.Element
import PlatformGate.Markup.Encoding
import PlatformGate.Markup.Fault
import PlatformGate.Markup.Namespace
import PlatformGate.Markup.Opening
import PlatformGate.Markup.OuterToken
import PlatformGate.Markup.Prolog
import PlatformGate.Markup.Tag
import PlatformGate.Markup.Token
import PlatformGate.Markup.Value
import PlatformGate.OptionBlock
import PlatformGate.Options.Bracket
import PlatformGate.Options.Clause
import PlatformGate.Options.Cursor
import PlatformGate.Options.Token
import PlatformGate.Options.TraitPath
import PlatformGate.Platform
import PlatformGate.Proofs.Agreement
import PlatformGate.Proofs.CarriageReturn
import PlatformGate.Proofs.Cfg
import PlatformGate.Proofs.Command.Files
import PlatformGate.Proofs.Command.Generate
import PlatformGate.Proofs.Command.Repetition
import PlatformGate.Proofs.Command.Workspace
import PlatformGate.Proofs.Completeness
import PlatformGate.Proofs.Gating
import PlatformGate.Proofs.Diagnostics
import PlatformGate.Proofs.Generation
import PlatformGate.Proofs.Identifier
import PlatformGate.Proofs.Independence
import PlatformGate.Proofs.Item.Alias
import PlatformGate.Proofs.Item.Argument
import PlatformGate.Proofs.Item.Assertion
import PlatformGate.Proofs.Item.ForwardCall
import PlatformGate.Proofs.Item.Function
import PlatformGate.Proofs.Item.Module
import PlatformGate.Proofs.Location
import PlatformGate.Proofs.Manifest
import PlatformGate.Proofs.Manifest.Filled
import PlatformGate.Proofs.Manifest.Loaded
import PlatformGate.Proofs.Manifest.Places
import PlatformGate.Proofs.Manifest.Reading
import PlatformGate.Proofs.Manifest.Reloading
import PlatformGate.Proofs.Manifest.Writing
import PlatformGate.Proofs.Options.Balance
import PlatformGate.Proofs.Options.Block
import PlatformGate.Proofs.Options.Bracket
import PlatformGate.Proofs.Options.Canonical
import PlatformGate.Proofs.Options.Cursor
import PlatformGate.Proofs.Options.FaultPlace
import PlatformGate.Proofs.Options.FirstMatch
import PlatformGate.Proofs.Options.Grammar
import PlatformGate.Proofs.Options.Message
import PlatformGate.Proofs.Options.Nesting
import PlatformGate.Proofs.Options.PathParts
import PlatformGate.Proofs.Options.Permission
import PlatformGate.Proofs.Options.Refusal
import PlatformGate.Proofs.Options.ReturnType
import PlatformGate.Proofs.Options.Series
import PlatformGate.Proofs.Options.Token
import PlatformGate.Proofs.Options.TraitList
import PlatformGate.Proofs.Options.TraitPath
import PlatformGate.Proofs.Options.Turn
import PlatformGate.Proofs.Resolution
import PlatformGate.Proofs.SourceFile
import PlatformGate.Proofs.SourceLayout
import PlatformGate.Proofs.Summary
import PlatformGate.Proofs.Text.Blank
import PlatformGate.Proofs.Text.Integer
import PlatformGate.Proofs.Text.Lexeme
import PlatformGate.Proofs.Text.Lines
import PlatformGate.Proofs.Text.Literal
import PlatformGate.Proofs.Text.Word
import PlatformGate.Resolution
import PlatformGate.SourceFile
import PlatformGate.Summary
import PlatformGate.Text.Blank
import PlatformGate.Text.Column
import PlatformGate.Text.Digit
import PlatformGate.Text.Integer
import PlatformGate.Text.Lines
import PlatformGate.Text.Literal
import PlatformGate.Text.Printable
import PlatformGate.Text.Quoted
import PlatformGate.Text.Range
import PlatformGate.Text.Split
import PlatformGate.Text.Word
import PlatformGate.UsageError
