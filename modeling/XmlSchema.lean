import XmlSchema.Text.Blank
import XmlSchema.QName
import XmlSchema.Namespace.Bindings
import XmlSchema.Xml.Tree
import XmlSchema.Xml.Printer
import XmlSchema.Xml.Character
import XmlSchema.Xml.Lexeme
import XmlSchema.Xml.Prolog
import XmlSchema.Xml.Event
import XmlSchema.Xml.Reader
import XmlSchema.Component.Identity
import XmlSchema.Component.Values
import XmlSchema.Component.Annotation
import XmlSchema.Component.Particle
import XmlSchema.Component.TypeDefinition
import XmlSchema.Component.Declaration
import XmlSchema.Component.Schema
import XmlSchema.Component.Error
import XmlSchema.Collection.Catalogue
import XmlSchema.Collection.Basic
import XmlSchema.Collection.Lookup
import XmlSchema.Collection.Registration
import XmlSchema.Document.Construct
import XmlSchema.Document.Draft
import XmlSchema.Document.Context
import XmlSchema.Document.Opening
import XmlSchema.Document.Reader
import XmlSchema.Locator.Path
import XmlSchema.Locator.Percent
import XmlSchema.Locator.Host
import XmlSchema.Locator.Url
import XmlSchema.Locator.Join
import XmlSchema.Resolution.Resolver
import XmlSchema.Resolution.Cache
import XmlSchema.Resolution.Composition
import XmlSchema.Resolution.Sharing
import XmlSchema.Document.PrefixTable
import XmlSchema.Document.Writer
import XmlSchema.Data.Json
import XmlSchema.Outline.Component
import XmlSchema.Outline.Reading
import XmlSchema.Files.Change
import XmlSchema.Resolution.Local
import XmlSchema.Discovery.Walk
import XmlSchema.Data.Toml.Document
import XmlSchema.Settings.Basic
import XmlSchema.Settings.File
import XmlSchema.Settings.Variables
import XmlSchema.CommandLine.Arguments
import XmlSchema.CommandLine.Parsing
import XmlSchema.Number.Places
import XmlSchema.Report.Basic
import XmlSchema.Report.Record
import XmlSchema.Processing.FileName
import XmlSchema.Processing.Processor
import XmlSchema.Processing.Run
import XmlSchema.Processing.Crew
import XmlSchema.CommandLine.Program
import XmlSchema.Main
import XmlSchema.Proofs.Attempt
import XmlSchema.Proofs.Component.Extension
import XmlSchema.Proofs.Document.Discipline
import XmlSchema.Proofs.Component.Parts
import XmlSchema.Proofs.Document.Grounding
import XmlSchema.Proofs.Collection.Growth
import XmlSchema.Proofs.Collection.Naming
import XmlSchema.Proofs.Collection.Slots
import XmlSchema.Proofs.Collection.Waiting
import XmlSchema.Proofs.Resolution.Change
import XmlSchema.Proofs.Resolution.Walk
import XmlSchema.Proofs.Resolution.Operation
import XmlSchema.Proofs.Resolution.TypeRegistry
import XmlSchema.Proofs.Resolution.Record
import XmlSchema.Proofs.Resolution.Fuel
import XmlSchema.Proofs.Resolution.Keys
import XmlSchema.Proofs.Resolution.Termination
import XmlSchema.Proofs.Document.Writing
import XmlSchema.Proofs.Collection.Writable
import XmlSchema.Proofs.Collection.Emission
import XmlSchema.Proofs.Resolution.Expressible
import XmlSchema.Proofs.Collection.Search
import XmlSchema.Proofs.Resolution.Completion
import XmlSchema.Proofs.Resolution.Sharing
import XmlSchema.Proofs.Xml.Meaning
import XmlSchema.Proofs.Document.Prefixes
import XmlSchema.Proofs.Document.Spelling
import XmlSchema.Proofs.Collection.Bindings
import XmlSchema.Proofs.Text.Trimming
import XmlSchema.Proofs.Component.Substitution
import XmlSchema.Proofs.Namespace.Scope
import XmlSchema.Proofs.Document.Chameleon
import XmlSchema.Proofs.Document.Titling
import XmlSchema.Proofs.Resolution.Inclusion
import XmlSchema.Proofs.Document.Site
import XmlSchema.Proofs.Document.Recording
import XmlSchema.Proofs.Document.Placing
import XmlSchema.Proofs.Resolution.Origin
import XmlSchema.Proofs.Resolution.Recounting
import XmlSchema.Proofs.Resolution.References
import XmlSchema.Proofs.Locator.Normal
import XmlSchema.Proofs.Resolution.Locators
import XmlSchema.Proofs.Document.Forwarding
import XmlSchema.Proofs.Resolution.Forwarding
import XmlSchema.Proofs.Xml.Escaping
import XmlSchema.Proofs.Xml.Lexing
import XmlSchema.Proofs.Xml.Rereading
import XmlSchema.Proofs.Collection.Views
import XmlSchema.Proofs.Collection.Seclusion
import XmlSchema.Proofs.Xml.Naming
import XmlSchema.Proofs.Resolution.Plotting
import XmlSchema.Proofs.Resolution.Drawing
import XmlSchema.Proofs.Document.References
import XmlSchema.Proofs.Resolution.Recomposition
import XmlSchema.Proofs.Collection.Permanence
import XmlSchema.Proofs.Resolution.Permanence
import XmlSchema.Proofs.Component.Ledger
import XmlSchema.Proofs.Document.Ownership
import XmlSchema.Proofs.Collection.Ownership
import XmlSchema.Proofs.Collection.Forest
import XmlSchema.Proofs.Resolution.Ownership
import XmlSchema.Proofs.Document.Visiting
import XmlSchema.Proofs.Collection.Visiting
import XmlSchema.Proofs.Resolution.Forest
import XmlSchema.Proofs.Collection.Registry
import XmlSchema.Proofs.Resolution.Registry
import XmlSchema.Proofs.Resolution.Warmth
import XmlSchema.Proofs.Processing.Alone
import XmlSchema.Proofs.Processing.Crew
import XmlSchema.Proofs.Processing.InOrder
import XmlSchema.Proofs.Component.Bounds
import XmlSchema.Proofs.Document.Particles
import XmlSchema.Proofs.Resolution.Provenance
import XmlSchema.Proofs.Resolution.Bounds
import XmlSchema.Proofs.Processing.FileName
import XmlSchema.Proofs.Files.Tree
import XmlSchema.Proofs.Files.Change
import XmlSchema.Proofs.Processing.Outputs
import XmlSchema.Proofs.Locator.Resolving
import XmlSchema.Proofs.Resolution.Findability
import XmlSchema.Proofs.Processing.Entry
import XmlSchema.Proofs.Files.Normal
import XmlSchema.Proofs.Processing.SelfContained
import XmlSchema.Proofs.Collection.Sources
import XmlSchema.Proofs.Document.Omission
import XmlSchema.Proofs.Resolution.Revision
import XmlSchema.Proofs.Resolution.Omission
import XmlSchema.Proofs.Collection.EmissionOrder
import XmlSchema.Proofs.Resolution.Refusal
import XmlSchema.Proofs.Document.Heedless
import XmlSchema.Proofs.Collection.Override
import XmlSchema.Proofs.Resolution.Override
import XmlSchema.Proofs.Document.Control
import XmlSchema.Proofs.Document.Declarations
import XmlSchema.Proofs.Resolution.Control
import XmlSchema.Proofs.Document.Allocation
import XmlSchema.Proofs.Xml.Reporting
import XmlSchema.Proofs.Files.Following
import XmlSchema.Proofs.Discovery.Queue
import XmlSchema.Proofs.Discovery.Walk
import XmlSchema.Proofs.Xml.Events
import XmlSchema.Proofs.Component.Transcription
import XmlSchema.Proofs.Document.Rewriting
import XmlSchema.Proofs.Document.Copies
import XmlSchema.Proofs.Document.Copying
import XmlSchema.Proofs.Document.Reproduction
import XmlSchema.Proofs.Document.Facsimile
import XmlSchema.Proofs.Document.Authoring
import XmlSchema.Proofs.Resolution.Rebuilding
import XmlSchema.Proofs.Resolution.RoundTrip
