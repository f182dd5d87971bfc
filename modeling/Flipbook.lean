import Flipbook.CommandLine
import Flipbook.Encoding.Bitmap
import Flipbook.Encoding.Checksum
import Flipbook.Encoding.Gif
import Flipbook.Encoding.Png
import Flipbook.Fault
import Flipbook.Geometry.Buffer
import Flipbook.Geometry.BufferInput
import Flipbook.Geometry.Fault
import Flipbook.Geometry.Matrix
import Flipbook.Geometry.MatrixArray
import Flipbook.Geometry.OriginStack
import Flipbook.Geometry.Vector
import Flipbook.Log
import Flipbook.Log.Sink
import Flipbook.Main
import Flipbook.Mesh.Box
import Flipbook.Mesh.Round
import Flipbook.Mesh.Triangulation
import Flipbook.Numeric.Binary64
import Flipbook.Numeric.Decimal
import Flipbook.Numeric.NumArray
import Flipbook.Numeric.Scalar
import Flipbook.OrderedMap
import Flipbook.Outcome
import Flipbook.Output.AnimationFile
import Flipbook.Output.Exporter
import Flipbook.Output.Fault
import Flipbook.Output.FileBytes
import Flipbook.Output.FileTree
import Flipbook.Output.FrameName
import Flipbook.Output.PathName
import Flipbook.Output.PictureFile
import Flipbook.Program
import Flipbook.Project
import Flipbook.Proofs.AcceptedEntries
import Flipbook.Proofs.AffineMap
import Flipbook.Proofs.AppliedFrames
import Flipbook.Proofs.AssembledFrames
import Flipbook.Proofs.Atomicity
import Flipbook.Proofs.BoxSurface
import Flipbook.Proofs.BufferCalls
import Flipbook.Proofs.BufferPoints
import Flipbook.Proofs.CanvasMeasures
import Flipbook.Proofs.ClosedMesh
import Flipbook.Proofs.Configuration
import Flipbook.Proofs.DepthBuffer
import Flipbook.Proofs.DepthOrder
import Flipbook.Proofs.DirectedRun
import Flipbook.Proofs.DirectorHistory
import Flipbook.Proofs.DocumentFaults
import Flipbook.Proofs.ExactAngles
import Flipbook.Proofs.ExactSegments
import Flipbook.Proofs.FieldKinds
import Flipbook.Proofs.FlatTriangles
import Flipbook.Proofs.FloatRange
import Flipbook.Proofs.FrameByFrame
import Flipbook.Proofs.FrameIsolation
import Flipbook.Proofs.FrameNames
import Flipbook.Proofs.FrameSuffixes
import Flipbook.Proofs.GridTriangles
import Flipbook.Proofs.Interpretation
import Flipbook.Proofs.KeyIdentity
import Flipbook.Proofs.KnobTimeline
import Flipbook.Proofs.LastWords
import Flipbook.Proofs.LetterCase
import Flipbook.Proofs.LoadedScripts
import Flipbook.Proofs.LooseOperations
import Flipbook.Proofs.MeshSize
import Flipbook.Proofs.NearestFragment
import Flipbook.Proofs.Nesting
import Flipbook.Proofs.OperationFields
import Flipbook.Proofs.OrderedMap
import Flipbook.Proofs.Orientation
import Flipbook.Proofs.Outcome
import Flipbook.Proofs.OutwardSurfaces
import Flipbook.Proofs.Performance
import Flipbook.Proofs.PlacedVertices
import Flipbook.Proofs.PointRows
import Flipbook.Proofs.Preparation
import Flipbook.Proofs.RangePieces
import Flipbook.Proofs.RefusedRanges
import Flipbook.Proofs.Registrations
import Flipbook.Proofs.RepeatedRuns
import Flipbook.Proofs.ReversedSegments
import Flipbook.Proofs.RowArrays
import Flipbook.Proofs.RunLog
import Flipbook.Proofs.SampleGaps
import Flipbook.Proofs.ScheduleContents
import Flipbook.Proofs.ScheduleFaults
import Flipbook.Proofs.Scope
import Flipbook.Proofs.ScopedRun
import Flipbook.Proofs.SharedNames
import Flipbook.Proofs.SolidOutlines
import Flipbook.Proofs.Surface
import Flipbook.Proofs.Symbols
import Flipbook.Proofs.UsableSettings
import Flipbook.Proofs.WholeFloats
import Flipbook.Proofs.Writable
import Flipbook.Proofs.WrittenFiles
import Flipbook.Raster.Canvas
import Flipbook.Raster.DrawingInput
import Flipbook.Raster.Picture
import Flipbook.Raster.Rasterizer
import Flipbook.Raster.Segment
import Flipbook.Raster.Wireframe
import Flipbook.Registry
import Flipbook.Rendering
import Flipbook.Scene
import Flipbook.Script.Document
import Flipbook.Script.Entry
import Flipbook.Script.Fault
import Flipbook.Script.LooseOperation
import Flipbook.Script.Material
import Flipbook.Script.Operation
import Flipbook.Script.Source
import Flipbook.Script.SymbolTable
import Flipbook.Settings
import Flipbook.Shape.BufferCall
import Flipbook.Shape.Builder
import Flipbook.Shape.Catalog
import Flipbook.Stage.Director
import Flipbook.Stage.Event
import Flipbook.Stage.Frame
import Flipbook.Stage.Interpreter
import Flipbook.Stage.Session
import Flipbook.Text.Base64
import Flipbook.Text.Blank
import Flipbook.Text.Case
import Flipbook.Text.CaseTable
import Flipbook.Text.CodePointSet
import Flipbook.Text.Digit
import Flipbook.Text.Numeral
import Flipbook.Text.Printable
import Flipbook.Text.Quoted
import Flipbook.Timeline.Config
import Flipbook.Timeline.Schedule
import Flipbook.Value
import Flipbook.Value.Conversion
import Flipbook.Value.Order
import Flipbook.Value.Printer
import Flipbook.Yaml.Fault
import Flipbook.Yaml.Lexer
import Flipbook.Yaml.Node
import Flipbook.Yaml.NodeValue
import Flipbook.Yaml.Reader
import Flipbook.Yaml.ScalarText
import Flipbook.Yaml.Spot
import Flipbook.Yaml.Tag
import Flipbook.Yaml.TagText
import Flipbook.Yaml.Timestamp
import Flipbook.Yaml.Token
