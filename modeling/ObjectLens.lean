import ObjectLens.Address
import ObjectLens.Arch
import ObjectLens.Archive
import ObjectLens.Bytes
import ObjectLens.CommandLine.Commands
import ObjectLens.CommandLine.Invocation
import ObjectLens.CommandLine.Printing
import ObjectLens.CommandLine.Report
import ObjectLens.CommandLine.Run
import ObjectLens.Config
import ObjectLens.Config.Entries
import ObjectLens.Config.File
import ObjectLens.Config.Json
import ObjectLens.Config.Yaml
import ObjectLens.Elf.Contents
import ObjectLens.Elf.Dynamic
import ObjectLens.Elf.File
import ObjectLens.Elf.Record
import ObjectLens.Elf.Stubs
import ObjectLens.FileState
import ObjectLens.Fixture.Basic
import ObjectLens.Fixture.Block
import ObjectLens.Fixture.Build
import ObjectLens.Fixture.Layout
import ObjectLens.FunctionSize
import ObjectLens.Hex
import ObjectLens.Image
import ObjectLens.Instruction.Basic
import ObjectLens.Instruction.Decoder
import ObjectLens.Instruction.Jump
import ObjectLens.Instruction.Row
import ObjectLens.Instruction.Table.Arm
import ObjectLens.Instruction.Table.Arm64
import ObjectLens.Instruction.Table.RiscV
import ObjectLens.Instruction.Table.X86
import ObjectLens.Instruction.Table.X8664
import ObjectLens.Json
import ObjectLens.JsonText
import ObjectLens.MachO.Binding
import ObjectLens.MachO.Command
import ObjectLens.MachO.Contents
import ObjectLens.MachO.File
import ObjectLens.MachO.Section
import ObjectLens.MachO.SymbolEntry
import ObjectLens.Main
import ObjectLens.Opening
import ObjectLens.Pe.Auxiliary
import ObjectLens.Pe.Contents
import ObjectLens.Pe.Export
import ObjectLens.Pe.File
import ObjectLens.Pe.Header
import ObjectLens.Pe.Import
import ObjectLens.Pe.Mapping
import ObjectLens.Pe.Object
import ObjectLens.Proofs.AddressText
import ObjectLens.Proofs.BindingRuns
import ObjectLens.Proofs.ByteReading
import ObjectLens.Proofs.CodeRanges
import ObjectLens.Proofs.CodeRegions
import ObjectLens.Proofs.CommandOutcomes
import ObjectLens.Proofs.ConfigIndependence
import ObjectLens.Proofs.CutNames
import ObjectLens.Proofs.DisplayedNames
import ObjectLens.Proofs.ElfReading
import ObjectLens.Proofs.FixtureBlocks
import ObjectLens.Proofs.FixtureCode
import ObjectLens.Proofs.FixtureDynamic
import ObjectLens.Proofs.FixtureFunctions
import ObjectLens.Proofs.FixtureGotStubs
import ObjectLens.Proofs.FixtureLayout
import ObjectLens.Proofs.FixtureReading
import ObjectLens.Proofs.FixtureRelocations
import ObjectLens.Proofs.FixtureRoom
import ObjectLens.Proofs.FixtureRoundTrip
import ObjectLens.Proofs.FixtureSections
import ObjectLens.Proofs.FixtureStubs
import ObjectLens.Proofs.FormatDetection
import ObjectLens.Proofs.FunctionBodies
import ObjectLens.Proofs.FunctionRanges
import ObjectLens.Proofs.FunctionTiling
import ObjectLens.Proofs.InferredBodies
import ObjectLens.Proofs.InferredSizes
import ObjectLens.Proofs.JumpSlots
import ObjectLens.Proofs.JumpStubs
import ObjectLens.Proofs.LinkedRelocations
import ObjectLens.Proofs.MachOReading
import ObjectLens.Proofs.ListedAnswers
import ObjectLens.Proofs.OpenedImages
import ObjectLens.Proofs.PositionalStubs
import ObjectLens.Proofs.PrintedReports
import ObjectLens.Proofs.ReportedFields
import ObjectLens.Proofs.ResolvedBodies
import ObjectLens.Proofs.SectionBodies
import ObjectLens.Proofs.SectionOrdinals
import ObjectLens.Proofs.SectionSizes
import ObjectLens.Proofs.SegmentlessStubs
import ObjectLens.Proofs.StoredBytes
import ObjectLens.Proofs.StoredNames
import ObjectLens.Proofs.StoredRecords
import ObjectLens.Proofs.StubRoundTrip
import ObjectLens.Proofs.StubSlots
import ObjectLens.Proofs.TableLookup
import ObjectLens.Proofs.ThumbBodies
import ObjectLens.Region
import ObjectLens.Sha256
import ObjectLens.StringTable
import ObjectLens.Symbol
import ObjectLens.Word
import ObjectLens.Yaml.Cursor
import ObjectLens.Yaml.Node
import ObjectLens.Yaml.Outline
import ObjectLens.Yaml.Scalar
import ObjectLens.Yaml.Tag
import ObjectLens.Yaml.Token
import ObjectLens.Yaml.Tokens
