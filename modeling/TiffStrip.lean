import TiffStrip.Bytes.Address
import TiffStrip.Bytes.Checksum
import TiffStrip.Bytes.Chunk
import TiffStrip.Bytes.Order
import TiffStrip.Compression
import TiffStrip.Directory
import TiffStrip.Entry.Basic
import TiffStrip.Entry.Value
import TiffStrip.Error
import TiffStrip.FieldType
import TiffStrip.FieldValue
import TiffStrip.File
import TiffStrip.Header
import TiffStrip.Image.Colormap
import TiffStrip.Image.Decode
import TiffStrip.Image.Error
import TiffStrip.Image.Info
import TiffStrip.Image.Picture
import TiffStrip.Image.Png
import TiffStrip.Image.RowForm
import TiffStrip.Literal
import TiffStrip.Main
import TiffStrip.Photometric
import TiffStrip.Program.Command
import TiffStrip.Program.CommandLine
import TiffStrip.Program.FileSystem
import TiffStrip.Program.Folder
import TiffStrip.Program.Path
import TiffStrip.Program.Report
import TiffStrip.Program.Run
import TiffStrip.Program.Settings
import TiffStrip.Source
import TiffStrip.Stream.Basic
import TiffStrip.Stream.Error
import TiffStrip.StripTable
import TiffStrip.Tag
import TiffStrip.Text.Hex
import TiffStrip.Text.Json
import TiffStrip.Text.Quoted
import TiffStrip.Text.Terminal
import TiffStrip.Text.Utf8
import TiffStrip.Text.Visible
import TiffStrip.Proofs.Simulation
import TiffStrip.Proofs.Source.Simulation
import TiffStrip.Proofs.Stream.Range
import TiffStrip.Proofs.Stream.Continued
import TiffStrip.Proofs.Stream.Call
import TiffStrip.Proofs.Stream.Kept
import TiffStrip.Proofs.Stream.Exact
import TiffStrip.Proofs.Stream.Sparse
import TiffStrip.Proofs.File.Hidden
import TiffStrip.Proofs.Source.Request
import TiffStrip.Proofs.File.History
import TiffStrip.Proofs.Decode.Plan
import TiffStrip.Proofs.Decode.Scan
import TiffStrip.Proofs.Decode.Sizes
import TiffStrip.Proofs.Decode.Whole
import TiffStrip.Proofs.Source.Watched
import TiffStrip.Proofs.Decode.Stopped
import TiffStrip.Proofs.File.Lines
import TiffStrip.Proofs.File.Served
import TiffStrip.Proofs.File.Described
import TiffStrip.Proofs.Layout.Number
import TiffStrip.Proofs.Layout.Header
import TiffStrip.Proofs.File.Opening
import TiffStrip.Proofs.File.SizeGuard
import TiffStrip.Proofs.Decode.Zeroed
import TiffStrip.Proofs.File.Continued
import TiffStrip.Proofs.File.Chain
import TiffStrip.Proofs.File.Access
import TiffStrip.Proofs.File.Addresses
import TiffStrip.Proofs.Decode.Complete
import TiffStrip.Proofs.Colormap.Correct
import TiffStrip.Proofs.Colormap.Found
import TiffStrip.Proofs.Colormap.Read
import TiffStrip.Proofs.Decode.Palette
import TiffStrip.Proofs.Decode.Continued
import TiffStrip.Proofs.File.Truncated
import TiffStrip.Proofs.Layout.Basic
import TiffStrip.Proofs.Layout.Directory
import TiffStrip.Proofs.Entry.Basic
import TiffStrip.Proofs.Layout.Encoded
import TiffStrip.Proofs.Layout.Fields
import TiffStrip.Proofs.Layout.Strips
import TiffStrip.Proofs.Layout.Placed
import TiffStrip.Proofs.Layout.Opened
import TiffStrip.Proofs.File.Metadata
import TiffStrip.Proofs.Layout.Shown
import TiffStrip.Proofs.Layout.Rows
import TiffStrip.Proofs.Layout.RoundTrip
import TiffStrip.Proofs.Picture.Drawn
import TiffStrip.Proofs.Picture.Whole
import TiffStrip.Proofs.Layout.Picture
import TiffStrip.Proofs.Layout.Canonical
import TiffStrip.Proofs.Layout.Inverse
import TiffStrip.Proofs.Entry.Field
import TiffStrip.Proofs.Entry.Numbers
import TiffStrip.Proofs.Text.Utf8
import TiffStrip.Proofs.Entry.Text
import TiffStrip.Proofs.Entry.Refused
import TiffStrip.Proofs.File.Directory
import TiffStrip.Proofs.File.Walk
import TiffStrip.Proofs.File.Allocation
import TiffStrip.Proofs.File.Refused
import TiffStrip.Proofs.File.Scanline
import TiffStrip.Proofs.File.Failing
import TiffStrip.Proofs.File.InLayout
import TiffStrip.Proofs.Program.Path
import TiffStrip.Proofs.Program.Report
import TiffStrip.Proofs.Program.FileSystem
import TiffStrip.Proofs.Program.Folder
import TiffStrip.Proofs.Program.Run
import TiffStrip.Proofs.Program.Input
