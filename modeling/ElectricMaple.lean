import ElectricMaple.Server.Pipeline
import ElectricMaple.Server.Stamping
import ElectricMaple.Server.Peers
import ElectricMaple.Server.DataChannel
import ElectricMaple.Server.Signalling
import ElectricMaple.Client.Experience
import ElectricMaple.Client.Ownership
import ElectricMaple.Client.FreezeFrame
import ElectricMaple.Client.Initialisation
import ElectricMaple.Client.FrameSubmission
import ElectricMaple.Client.UpMessages
import ElectricMaple.Client.Session
import ElectricMaple.Client.Lifecycle
import ElectricMaple.Client.AndroidMain
