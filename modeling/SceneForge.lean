import SceneForge.Asset.Id
import SceneForge.Attributes
import SceneForge.Cli.Arguments
import SceneForge.Cli.Command
import SceneForge.Cli.Console
import SceneForge.Cli.Footprint
import SceneForge.Cli.Run
import SceneForge.Compress.Checksum
import SceneForge.Compress.Inflate
import SceneForge.Config.Basic
import SceneForge.Config.File
import SceneForge.Depot.Basic
import SceneForge.Depot.Files
import SceneForge.Depot.Tree
import SceneForge.Document.Basic
import SceneForge.Document.Validity
import SceneForge.Export.Batch
import SceneForge.Export.Outcome
import SceneForge.Export.Session
import SceneForge.Failure
import SceneForge.Freshness
import SceneForge.Geometry.Mat4
import SceneForge.Geometry.Quat
import SceneForge.Geometry.Vec3
import SceneForge.Gltf.Accessor
import SceneForge.Gltf.Container
import SceneForge.Gltf.Load
import SceneForge.Gltf.Location
import SceneForge.Gltf.Schema
import SceneForge.Host.Basic
import SceneForge.Host.Files
import SceneForge.Json.Basic
import SceneForge.Json.Shape
import SceneForge.Logging
import SceneForge.Main
import SceneForge.Mesh.Basic
import SceneForge.Mesh.Codec
import SceneForge.Mesh.Platform
import SceneForge.Metrics
import SceneForge.Model.Basic
import SceneForge.Model.Generate
import SceneForge.Number.Binary
import SceneForge.Number.Digits
import SceneForge.Number.Shortest
import SceneForge.Number.Sine
import SceneForge.Number.Single
import SceneForge.Path.Basic
import SceneForge.Path.Pattern
import SceneForge.Picture.Basic
import SceneForge.Picture.Bitmap
import SceneForge.Picture.Format
import SceneForge.Picture.Jpeg.Reader
import SceneForge.Picture.Jpeg.Scan
import SceneForge.Picture.Jpeg.Writer
import SceneForge.Picture.Png
import SceneForge.Picture.Resize
import SceneForge.Picture.Targa
import SceneForge.Proofs.Document.Hierarchy
import SceneForge.Proofs.Document.Validity
import SceneForge.Proofs.Mesh.Codec
import SceneForge.Proofs.Scene.Reference
import SceneForge.Proofs.Scene.Traversal
import SceneForge.Scene.Basic
import SceneForge.Scene.Flatten
import SceneForge.Settings
import SceneForge.Surface.Basic
import SceneForge.Surface.Build
import SceneForge.Text.Base64
import SceneForge.Text.Case
import SceneForge.Text.Normal
import SceneForge.Text.NormalTable
import SceneForge.Text.Printable
import SceneForge.Text.Quoted
import SceneForge.Text.Utf8
import SceneForge.Texture.Convert
import SceneForge.Texture.Extract
import SceneForge.Yaml.Node
import SceneForge.Yaml.Reader
import SceneForge.Yaml.Scalar
import SceneForge.Yaml.Token
import SceneForge.Yaml.Writer
import SceneForge.Proofs.Depot.Evolution
import SceneForge.Proofs.Export.Footprint
import SceneForge.Proofs.Export.Staleness
import SceneForge.Proofs.Depot.Outcome
import SceneForge.Proofs.Export.Lifecycle
import SceneForge.Proofs.Export.Success
import SceneForge.Proofs.Export.FixedPoint
import SceneForge.Proofs.Access.Checked
import SceneForge.Proofs.Access.InRange
import SceneForge.Proofs.Path.Names
import SceneForge.Proofs.Depot.Layout
import SceneForge.Proofs.Export.Sites
import SceneForge.Proofs.Text.Utf8
import SceneForge.Proofs.Export.Artifacts
import SceneForge.Proofs.Scene.Merged
import SceneForge.Proofs.Export.Course
import SceneForge.Proofs.Export.Integrity
import SceneForge.Proofs.Export.Independence
import SceneForge.Proofs.Scene.Tiling
import SceneForge.Proofs.Scene.Placement
import SceneForge.Proofs.Depot.Confinement
import SceneForge.Proofs.Depot.Anchors
import SceneForge.Proofs.Export.Confinement
import SceneForge.Proofs.Asset.Bounds
import SceneForge.Proofs.Asset.Disjoint
import SceneForge.Proofs.Asset.Sources
import SceneForge.Proofs.Depot.Listing
import SceneForge.Proofs.Depot.Coupling
import SceneForge.Proofs.Export.Regular
import SceneForge.Proofs.Export.Batch
import SceneForge.Proofs.Export.Coupled
import SceneForge.Proofs.Export.Parties
import SceneForge.Proofs.Export.Interleaving
import SceneForge.Proofs.Picture.Targa
import SceneForge.Proofs.Export.Blame
import SceneForge.Proofs.Export.Refusals
import SceneForge.Proofs.Asset.Listed
import SceneForge.Proofs.Asset.Premises
import SceneForge.Proofs.Export.Plan
import SceneForge.Proofs.Export.Faults
import SceneForge.Proofs.Export.Oversized
import SceneForge.Proofs.Picture.Raw
import SceneForge.Proofs.Mesh.Layout
import SceneForge.Proofs.Scene.Extent
import SceneForge.Proofs.Scene.Reach
import SceneForge.Proofs.Scene.Arrangement
import SceneForge.Proofs.Scene.Coverage
import SceneForge.Proofs.Scene.Skeleton
import SceneForge.Proofs.Scene.Binding
import SceneForge.Proofs.Asset.Recovery
import SceneForge.Proofs.Depot.Separators
import SceneForge.Proofs.Surface.Generate
import SceneForge.Proofs.Texture.Extract
import SceneForge.Proofs.Geometry.Matrix
import SceneForge.Proofs.Geometry.Inverse
import SceneForge.Proofs.Geometry.Rotation
import SceneForge.Proofs.Scene.Facing
import SceneForge.Proofs.Path.Relative
import SceneForge.Proofs.Host.Location
import SceneForge.Proofs.Host.Replace
import SceneForge.Proofs.Config.Saved
import SceneForge.Proofs.Depot.Resolved
import SceneForge.Proofs.Gltf.Views
import SceneForge.Proofs.Document.Bytes
