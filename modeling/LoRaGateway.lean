import LoRaGateway.Registry.Refinement
import LoRaGateway.Registry.Restart
import LoRaGateway.Registry.FileText
import LoRaGateway.Registry.NodeFile
import LoRaGateway.Registry.Storage
import LoRaGateway.Packet
import LoRaGateway.Driver.Transmit
import LoRaGateway.Driver.Receive
import LoRaGateway.Driver.Serial
import LoRaGateway.Driver.Delivery
import LoRaGateway.Driver.Task
import LoRaGateway.Driver.Mode
import LoRaGateway.Driver.DataRate
import LoRaGateway.Driver.FieldBits
import LoRaGateway.Driver.Resources
import LoRaGateway.Driver.WriteBounds
import LoRaGateway.Driver.Read
import LoRaGateway.Driver.Filter
import LoRaGateway.Driver.Cad
import LoRaGateway.Display.TwoUsers
import LoRaGateway.Display.Bitmap
import LoRaGateway.Display.Clear
import LoRaGateway.Display.Cursor
import LoRaGateway.Display.LineBuffers
import LoRaGateway.Display.Write
import LoRaGateway.MainLoop.Starvation
import LoRaGateway.MainLoop.Answer
import LoRaGateway.MainLoop.View
import LoRaGateway.MainLoop.Disconnect
import LoRaGateway.MainLoop.Turns
import LoRaGateway.MainLoop.Notice
import LoRaGateway.MainLoop.Lookup
import LoRaGateway.MainLoop.Response
import LoRaGateway.MainLoop.Codec
import LoRaGateway.Session.AckWait
import LoRaGateway.Session.HandOver
import LoRaGateway.Session.Isolation
import LoRaGateway.Session.Requests
import LoRaGateway.Session.Stream
import LoRaGateway.Session.Grammar
import LoRaGateway.Session.Schedule
import LoRaGateway.MainLoop.History
import LoRaGateway.Display.Station
import LoRaGateway.MainLoop.Progress
import LoRaGateway.Driver.Settings
import LoRaGateway.MainLoop.Cloud
import LoRaGateway.Display.Life
import LoRaGateway.Display.Minute
import LoRaGateway.MainLoop.Arrival
import LoRaGateway.Session.Parent
import LoRaGateway.Session.Served
import LoRaGateway.Session.Reply
import LoRaGateway.Session.Told
import LoRaGateway.Session.Closing
